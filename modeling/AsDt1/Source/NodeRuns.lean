import AsDt1.Source.CombinerRuns
import AsDt1.Source.ImuFusion

/-!
# Runs of the combiner node

Clouds and IMU messages arrive in any order. All subscriptions are in the node's
default callback group, which runs one callback at a time. `lookedUp` is a history
variable: no callback reads it.
-/
namespace AsDt1.Source
open AsDt1.Lib

structure CombinerNode (n m : Nat) (K T : Type) where
  clouds : Combiner n T
  latestImus : LatestImus m K
  /-- The frame of the cloud whose lookup filled the cache of its topic. -/
  lookedUp : Fin n → Option String

inductive NodeArrival (n m : Nat) (K T : Type) where
  | cloud (arrival : Arrival n T)
  | imu (topic : Fin m) (msg : Imu K)

variable {n m : Nat} {K T : Type}

namespace NodeArrival

def imuTopic : NodeArrival n m K T → Option (Fin m)
  | .cloud _ => none
  | .imu topic _ => some topic

def imuMsg : NodeArrival n m K T → Option (Imu K)
  | .cloud _ => none
  | .imu _ msg => some msg

end NodeArrival

/-- A cache that the round has filled was filled for the cloud in the topic's slot. -/
def noteLookups (lookedUp : Fin n → Option String) (clouds : Combiner n T) (topic : Fin n) : Option String :=
  match lookedUp topic, clouds.targetTransforms topic with
  | some frame, _ => some frame
  | none, none => none
  | none, some _ => (clouds.latestClouds topic).map fun cloud => cloud.header.frameId

/-- Without point cloud topics the constructor returns before it subscribes to any
IMU topic. -/
def combinerNode (rigid : T → Point3 → Point3) (targetFrame : String) :
    Machine (CombinerNode n m K T) (NodeArrival n m K T) where
  start := ⟨Combiner.initial targetFrame, fun _ => none, fun _ => none⟩
  step s
    | .cloud a => ((combiner rigid targetFrame).step s.clouds a).map fun clouds =>
        { s with clouds, lookedUp := noteLookups s.lookedUp clouds }
    | .imu topic msg =>
        if n = 0 then none else some { s with latestImus := Function.update s.latestImus topic (some msg) }

section Fusion

variable [Zero K] [One K] [Add K] [Neg K] [Div K] [NatCast K] [LE K] [DecidableLE K]

/-- The fused message that the round of an arrival publishes. -/
def publishesImu (rotate : T → Vec3 K → Vec3 K) (s : CombinerNode n m K T) :
    NodeArrival n m K T → Option (Imu K)
  | .cloud _ => none
  | .imu topic msg => (s.clouds.onImu rotate s.latestImus topic msg).2

/-- The round of arrival `p` publishes `fused`. -/
def FusedAt (rigid : T → Point3 → Point3) (rotate : T → Vec3 K → Vec3 K) (targetFrame : String)
    (arrivals : List (NodeArrival n m K T)) (p : Nat) (fused : Imu K) : Prop :=
  ∃ s trigger, (combinerNode rigid targetFrame).run (combinerNode rigid targetFrame).start (arrivals.take p) =
      some s ∧ arrivals[p]? = some trigger ∧ publishesImu rotate s trigger = some fused

end Fusion

variable {rigid : T → Point3 → Point3} {targetFrame : String} {s s' : CombinerNode n m K T}

/-- The message that arrived last on each IMU topic. -/
def lastImus (arrivals : List (NodeArrival n m K T)) : LatestImus m K :=
  fun topic => (slots NodeArrival.imuTopic arrivals (some topic)).bind NodeArrival.imuMsg

theorem lastImus_concat_cloud (arrivals : List (NodeArrival n m K T)) (a : Arrival n T) :
    lastImus (arrivals ++ [.cloud a]) = lastImus arrivals := by
  funext topic
  unfold lastImus
  rw [slots_concat, Function.update_of_ne (by simp [NodeArrival.imuTopic])]

theorem lastImus_concat_imu (arrivals : List (NodeArrival n m K T)) (topic : Fin m) (msg : Imu K) :
    lastImus (arrivals ++ [.imu topic msg]) = Function.update (lastImus arrivals) topic (some msg) := by
  funext other
  unfold lastImus
  rw [slots_concat]
  by_cases same : other = topic
  · subst same
    simp [NodeArrival.imuTopic, NodeArrival.imuMsg]
  · have other_key : (some other : Option (Fin m)) ≠ some topic := fun equal => same (Option.some.inj equal)
    simp [NodeArrival.imuTopic, Function.update_of_ne same, Function.update_of_ne other_key]

/-- After any run each IMU slot has the message that arrived last on its topic. -/
theorem latestImus_of_run {arrivals : List (NodeArrival n m K T)}
    (ran : (combinerNode rigid targetFrame).run (combinerNode rigid targetFrame).start arrivals = some s) :
    s.latestImus = lastImus arrivals := by
  induction arrivals using List.reverseRecOn generalizing s with
  | nil =>
    cases ran
    rfl
  | append_singleton arrivals last ih =>
    obtain ⟨before, ran_before, ran_last⟩ := Machine.run_append _ |>.mp ran
    obtain ⟨after, taken, ended⟩ := Machine.run_cons _ |>.mp ran_last
    obtain rfl : after = s := by simpa using ended
    have held := ih ran_before
    cases last with
    | cloud a =>
      obtain ⟨clouds, -, rfl⟩ := Option.map_eq_some_iff.mp taken
      rw [lastImus_concat_cloud]
      exact held
    | imu topic msg =>
      obtain ⟨-, same⟩ := Option.ite_none_left_eq_some.mp taken
      cases same
      rw [lastImus_concat_imu, ← held]

/-- The slots that the round of an IMU message looks at. -/
theorem latestImus_at {arrivals : List (NodeArrival n m K T)} {p : Nat} {topic : Fin m} {msg : Imu K}
    (arrived : arrivals[p]? = some (.imu topic msg))
    (ran : (combinerNode rigid targetFrame).run (combinerNode rigid targetFrame).start (arrivals.take p) =
      some s) :
    Function.update s.latestImus topic (some msg) = lastImus (arrivals.take (p + 1)) := by
  rw [List.take_add_one, arrived, Option.toList_some, lastImus_concat_imu, latestImus_of_run ran]

end AsDt1.Source
