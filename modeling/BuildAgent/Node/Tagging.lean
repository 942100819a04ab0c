import BuildAgent.Node.Cache

/-!
# Tagging the instance

The tags of a definition are sent to the provider as a whole: a push writes every one of them, a
clear removes every one that still has its value. Either looks the instance up first, so that it
acts on what the provider knows now. A change without tags makes no call.

A change of the definition's tags and the replacement of the definition hold the definition lock
throughout, so they follow one after the other. To replace a definition, the tags of the old one
are cleared and then those of the new one pushed. If the clear fails the old definition stays; a
node without an instance has no tags to clear, and its definition is replaced all the same. The
node stays bound to the instance that it has.
-/

namespace BuildAgent

/-- What a change of tags did. -/
inductive TagOutcome where
  | skipped
  | applied (count : Nat)
  deriving DecidableEq, Repr

/-- Where a change of tags stands. -/
inductive SyncPoint where
  | entering
  | looking (point : LookupPoint)
  | identifying
  | submitting (instanceId : InstanceId) (batch : List Tag)
  deriving DecidableEq

namespace SyncPoint

def enter (change : TagChange) (tags : List Tag) (world : World) :
    Stage SyncPoint (Except Refusal TagOutcome) :=
  if tags = [] then .done (.ok .skipped) (world.note (.nothingToSynchronize change))
  else .pause (.looking .waiting) world

def resume (change : TagChange) (tags : List Tag) :
    SyncPoint → World → Stage SyncPoint (Except Refusal TagOutcome)
  | entering, world => enter change tags world
  | looking point, world =>
    (point.resume world).andThen .looking fun found world =>
      match found with
      | .error refusal => .done (.error refusal) world
      | .ok none => .pause .identifying world
      | .ok (some snapshot) => .pause (.submitting snapshot.instanceId (Tag.batch tags)) world
  | identifying, world =>
    let known := (world.node.capacity.bound?.map Identifier.text).getD ""
    .done (.error (.instanceNotFound known)) world
  | submitting instanceId batch, world =>
    match world.ask fun provider => provider.changeTags change instanceId batch with
    | (.ok (), world) =>
      .done (.ok (.applied batch.length))
        (world.note (.synchronized instanceId change batch.length))
    | (.error failure, world) => .done (.error (.provider failure)) world

end SyncPoint

/-- Where the replacement of a definition stands. -/
inductive ReconfigurePoint where
  | waiting
  | clearing (tags : List Tag) (point : SyncPoint)
  | rebinding
  | pushing (tags : List Tag) (point : SyncPoint)
  deriving DecidableEq

namespace ReconfigurePoint

/-- Goes on after the tags of the old definition. -/
def afterClear (result : Except Refusal TagOutcome) (world : World) :
    Stage ReconfigurePoint (Except Refusal Unit) :=
  match result with
  | .ok _ => .pause .rebinding world
  | .error refusal =>
    if refusal.isMissingInstance then .pause .rebinding (world.note (.noTagsToClear refusal))
    else .done (.error refusal) world

def replace (definition : Definition) (world : World) : World :=
  (world.withNode fun node =>
    { node with
      longLived := definition.longLivedAgent
      definition := { definition with capacity := some node.capacity } }).note
    .definitionReplaced

/-- Ends after the tags of the new definition. -/
def afterPush (result : Except Refusal TagOutcome) (world : World) :
    Stage ReconfigurePoint (Except Refusal Unit) :=
  match result with
  | .ok _ => .done (.ok ()) world
  | .error refusal =>
    if refusal.isMissingInstance then .done (.ok ()) (world.note (.tagsNotPushed refusal))
    else .done (.error refusal) world

def resume (definition : Definition) :
    ReconfigurePoint → World → Stage ReconfigurePoint (Except Refusal Unit)
  | waiting, world =>
    let tags := world.node.definition.tags
    (SyncPoint.enter .clear tags world).andThen (.clearing tags) afterClear
  | clearing tags point, world =>
    (point.resume .clear tags world).andThen (.clearing tags) afterClear
  | rebinding, world =>
    (SyncPoint.enter .push definition.tags (replace definition world)).andThen
      (.pushing definition.tags) afterPush
  | pushing tags point, world =>
    (point.resume .push tags world).andThen (.pushing tags) afterPush

end ReconfigurePoint

end BuildAgent
