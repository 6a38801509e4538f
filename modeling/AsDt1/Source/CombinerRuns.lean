import AsDt1.Lib.LatestValues
import AsDt1.Lib.Machine
import AsDt1.Source.CombinerRounds

/-!
# Runs of the combiner

The node as a machine: an action is a cloud that arrives on a topic, with what
the transform listener answers in the round it triggers. `_clouds_mutex` is held
for a whole callback, so the rounds follow one another. The slots are the bank of
latest values of the arrivals.
-/
namespace AsDt1.Source
open AsDt1.Lib

structure Arrival (n : Nat) (T : Type) where
  topic : Fin n
  cloud : PointCloud2
  tf : TfBuffer n T

variable {n : Nat} {T : Type}

/-- The node that `target_frame` configures; a round that leaves a cloud's octets
has no next state. -/
def combiner (rigid : T → Point3 → Point3) (targetFrame : String) : Machine (Combiner n T) (Arrival n T) where
  start := Combiner.initial targetFrame
  step s a := (s.onPointCloud rigid a.tf a.topic a.cloud).toOption.map Prod.fst

/-- The cloud that the round of an arrival publishes. -/
def publishes (rigid : T → Point3 → Point3) (s : Combiner n T) (a : Arrival n T) : Option PointCloud2 :=
  (s.onPointCloud rigid a.tf a.topic a.cloud).toOption.bind Prod.snd

/-- The round of arrival `m` publishes `out`. -/
def PublishedAt (rigid : T → Point3 → Point3) (targetFrame : String) (arrivals : List (Arrival n T)) (m : Nat)
    (out : PointCloud2) : Prop :=
  ∃ s trigger, (combiner rigid targetFrame).run (Combiner.initial targetFrame) (arrivals.take m) = some s ∧
    arrivals[m]? = some trigger ∧ publishes rigid s trigger = some out

variable {rigid : T → Point3 → Point3} {targetFrame : String} {s s' : Combiner n T} {a : Arrival n T}

theorem combiner_step (taken : (combiner rigid targetFrame).step s a = some s') :
    ∃ result, Combiner.tryPublishCombined rigid a.tf (s.hold a.topic a.cloud) = .ok (s', result) := by
  obtain ⟨⟨next, result⟩, ended, rfl⟩ := Option.map_eq_some_iff.mp taken
  cases round : s.onPointCloud rigid a.tf a.topic a.cloud with
  | error fault =>
    rw [round] at ended
    cases ended
  | ok outcome =>
    rw [round] at ended
    cases ended
    exact ⟨result, round⟩

theorem combiner_step_slots (taken : (combiner rigid targetFrame).step s a = some s') :
    s'.latestClouds = Function.update s.latestClouds a.topic (some a.cloud) := by
  obtain ⟨result, round⟩ := combiner_step taken
  exact (Combiner.tryPublishCombined_keeps round).2

theorem combiner_target {arrivals : List (Arrival n T)}
    (ran : (combiner rigid targetFrame).run s arrivals = some s') : s'.targetFrame = s.targetFrame := by
  induction arrivals generalizing s with
  | nil =>
    cases ran
    rfl
  | cons first rest ih =>
    obtain ⟨next, taken, ran_rest⟩ := Machine.run_cons _ |>.mp ran
    obtain ⟨result, round⟩ := combiner_step taken
    exact (ih ran_rest).trans (Combiner.tryPublishCombined_keeps round).1

theorem publishes_spec {out : PointCloud2} (published : publishes rigid s a = some out) :
    ∃ s', Combiner.tryPublishCombined rigid a.tf (s.hold a.topic a.cloud) = .ok (s', some out) := by
  obtain ⟨⟨next, result⟩, ended, same⟩ := Option.bind_eq_some_iff.mp published
  cases round : s.onPointCloud rigid a.tf a.topic a.cloud with
  | error fault =>
    rw [round] at ended
    cases ended
  | ok outcome =>
    rw [round] at ended
    cases ended
    cases same
    exact ⟨next, round⟩

/-- After any run each slot has the cloud that arrived last on its topic. -/
theorem combiner_slots {arrivals : List (Arrival n T)}
    (ran : (combiner rigid targetFrame).run (Combiner.initial targetFrame) arrivals = some s) :
    s.latestClouds = Option.map Arrival.cloud ∘ slots Arrival.topic arrivals := by
  induction arrivals using List.reverseRecOn generalizing s with
  | nil =>
    cases ran
    rfl
  | append_singleton arrivals last ih =>
    obtain ⟨before, ran_before, ran_last⟩ := Machine.run_append _ |>.mp ran
    obtain ⟨after, taken, ended⟩ := Machine.run_cons _ |>.mp ran_last
    obtain rfl : after = s := by simpa using ended
    rw [combiner_step_slots taken, ih ran_before, slots_concat, Function.comp_update, Option.map_some]

/-- The slots that the round of an arrival looks at. -/
theorem combiner_slots_at {arrivals : List (Arrival n T)} {m : Nat} (arrived : arrivals[m]? = some a)
    (ran : (combiner rigid targetFrame).run (Combiner.initial targetFrame) (arrivals.take m) = some s) :
    (s.hold a.topic a.cloud).latestClouds =
      Option.map Arrival.cloud ∘ slots Arrival.topic (arrivals.take (m + 1)) := by
  unfold Combiner.hold
  rw [List.take_add_one, arrived, Option.toList_some, slots_concat, Function.comp_update, Option.map_some,
    combiner_slots ran]

end AsDt1.Source
