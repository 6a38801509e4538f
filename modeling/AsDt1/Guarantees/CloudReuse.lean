import AsDt1.Source.CombinerRuns

/-!
# How often a received cloud is published

A round merges whatever is in the slots and leaves it there, so a cloud is merged
again by later arrivals on other topics until its own topic delivers the next
one. The module says what such a reuse takes: two clouds of one other topic, both
stamped within the tolerance of the reused one.
-/
namespace AsDt1.Guarantees
open AsDt1.Lib AsDt1.Source

variable {n : Nat} {T : Type}

/-- Cloud `k` of the arrivals contributes points to what the round of arrival `m`
publishes: it is in its topic's slot, has the layout of the first slot's cloud,
and has points. -/
def Contributes (rigid : T → Point3 → Point3) (targetFrame : String) (arrivals : List (Arrival n T))
    (k m : Nat) : Prop :=
  ∃ s trigger out received clouds,
    (combiner rigid targetFrame).run (Combiner.initial targetFrame) (arrivals.take m) = some s ∧
    arrivals[m]? = some trigger ∧ publishes rigid s trigger = some out ∧
    arrivals[k]? = some received ∧ Held Arrival.topic (arrivals.take (m + 1)) k ∧
    (s.hold trigger.topic trigger.cloud).filledSlots = some clouds ∧
    received.cloud ∈ Combiner.merged clouds ∧ 0 < received.cloud.pointCount

/-- Stamped within the tolerance of each other. -/
def Near (cloud other : PointCloud2) : Prop :=
  cloud.stampNs - other.stampNs ≤ syncToleranceMs * 1000000 ∧
    other.stampNs - cloud.stampNs ≤ syncToleranceMs * 1000000

/-- Every topic has delivered a cloud that is stamped near every contributing one. -/
theorem contributes_near {rigid : T → Point3 → Point3} {targetFrame : String} {arrivals : List (Arrival n T)}
    {k m : Nat} {received : Arrival n T} (contributes : Contributes rigid targetFrame arrivals k m)
    (found : arrivals[k]? = some received) (topic : Fin n) :
    ∃ p other, arrivals[p]? = some other ∧ other.topic = topic ∧
      Held Arrival.topic (arrivals.take (m + 1)) p ∧ Near other.cloud received.cloud := by
  obtain ⟨s, trigger, out, received', clouds, ran, arrived, published, found', held, filled, listed, -⟩ :=
    contributes
  obtain rfl : received = received' := Option.some.inj (found.symm.trans found')
  obtain ⟨s', round⟩ := publishes_spec published
  obtain ⟨first, rest, -, filled', recent, -, -⟩ := Combiner.tryPublishCombined_spec round
  obtain rfl : clouds = first :: rest := Option.some.inj (filled.symm.trans filled')
  obtain ⟨cloud, cloud_listed, in_slot⟩ := Combiner.filledSlots_at filled topic
  rw [combiner_slots_at arrived ran] at in_slot
  obtain ⟨other, in_bank, rfl⟩ := Option.map_eq_some_iff.mp in_slot
  obtain ⟨p, found_other, of_topic, held_other⟩ := held_of_slot in_bank
  have before := held_other.lt
  rw [List.getElem?_take_of_lt before] at found_other
  exact ⟨p, other, found_other, of_topic, held_other,
    Combiner.within_tolerance recent cloud_listed (Combiner.merged_subset listed),
    Combiner.within_tolerance recent (Combiner.merged_subset listed) cloud_listed⟩

/-- A cloud that contributes to two published clouds is stamped near two clouds of
one other topic: one that had arrived by the first publication, and the one whose
arrival triggers the second. -/
theorem reused_between_two_near {rigid : T → Point3 → Point3} {targetFrame : String}
    {arrivals : List (Arrival n T)} {k m m' : Nat} (first : Contributes rigid targetFrame arrivals k m)
    (second : Contributes rigid targetFrame arrivals k m') (later : m < m') :
    ∃ received trigger earlier p, arrivals[k]? = some received ∧ arrivals[m']? = some trigger ∧
      arrivals[p]? = some earlier ∧ p ≤ m ∧ trigger.topic ≠ received.topic ∧ earlier.topic = trigger.topic ∧
      Near earlier.cloud received.cloud ∧ Near trigger.cloud received.cloud := by
  have reused := second
  obtain ⟨-, trigger, -, received, -, -, arrived, -, found, held, -⟩ := reused
  have present : k < m + 1 := by
    obtain ⟨-, -, -, -, -, -, -, -, -, held_first, -⟩ := first
    exact held_first.lt
  have other_topic : trigger.topic ≠ received.topic := held.arrival found arrived (by omega)
  obtain ⟨p, earlier, found_earlier, of_topic, held_earlier, near_earlier⟩ :=
    contributes_near first found trigger.topic
  obtain ⟨p', last, found_last, last_topic, held_last, near_last⟩ :=
    contributes_near second found trigger.topic
  have at_trigger : p' = m' := by
    by_contra elsewhere
    have before := held_last.lt
    exact held_last.arrival found_last arrived (by omega) last_topic.symm
  subst at_trigger
  obtain rfl : last = trigger := Option.some.inj (found_last.symm.trans arrived)
  have by_first := held_earlier.lt
  exact ⟨received, last, earlier, p, found, arrived, found_earlier, by omega, other_topic, of_topic,
    near_earlier, near_last⟩

/-- Where the stamps of each topic lie more than two tolerances apart, a cloud
contributes to at most one published cloud. -/
theorem contributes_once_of_sparse {rigid : T → Point3 → Point3} {targetFrame : String}
    {arrivals : List (Arrival n T)} {k m m' : Nat}
    (sparse : ∀ (p p' : Nat) (a a' : Arrival n T), arrivals[p]? = some a → arrivals[p']? = some a' → p < p' →
      a.topic = a'.topic → a.cloud.stampNs + 2 * (syncToleranceMs * 1000000) < a'.cloud.stampNs)
    (first : Contributes rigid targetFrame arrivals k m)
    (second : Contributes rigid targetFrame arrivals k m') : m = m' := by
  have not_later : ∀ {early late : Nat}, Contributes rigid targetFrame arrivals k early →
      Contributes rigid targetFrame arrivals k late → ¬ early < late := by
    intro early late contributes_early contributes_late later
    obtain ⟨received, trigger, earlier, p, -, found_trigger, found_earlier, by_first, -, same_topic, near,
      near'⟩ := reused_between_two_near contributes_early contributes_late later
    have apart := sparse p late earlier trigger found_earlier found_trigger (by omega) same_topic
    obtain ⟨-, below⟩ := near
    obtain ⟨above, -⟩ := near'
    omega
  have forward := not_later first second
  have backward := not_later second first
  omega

/-! ## Two cameras at 30 Hz, half a period apart -/

def frontTopic : Fin 2 := Fin.castSucc (Fin.last 0)

def rearTopic : Fin 2 := Fin.last 1

def frameAt (topic : Fin 2) (nanosec : Nat) : Arrival 2 Unit where
  topic
  cloud := {
    header := ⟨⟨100, nanosec⟩, "dt1_depth_frame"⟩
    height := 1
    width := 1
    fields := xyzitrFields
    isBigendian := false
    pointStep := xyzitrPointStep
    rowStep := xyzitrPointStep
    data := List.replicate 22 0
    isDense := false }
  tf := fun _ _ _ _ => some ()

def halfPeriodApart : List (Arrival 2 Unit) := [frameAt 0 0, frameAt 1 16666667, frameAt 0 33333333]

theorem rear_contributes (m : Nat) (listed : m = 1 ∨ m = 2) :
    Contributes (fun _ point => point) "base_link" halfPeriodApart 1 m := by
  rcases listed with rfl | rfl
  · refine ⟨_, _, _, _, [_, _], rfl, rfl, rfl, rfl, ⟨_, rfl, by decide⟩, rfl, by decide, by decide⟩
  · refine ⟨_, _, _, _, [_, _], rfl, rfl, rfl, rfl, ⟨_, rfl, by decide⟩, rfl, by decide, by decide⟩

/-- The rear camera's cloud is published with the front camera's cloud before it
and again with the one after it. -/
theorem rear_cloud_published_twice :
    halfPeriodApart.Pairwise (fun a b => a.topic = b.topic → a.cloud.stampNs < b.cloud.stampNs) ∧
      Contributes (fun _ point => point) "base_link" halfPeriodApart 1 1 ∧
      Contributes (fun _ point => point) "base_link" halfPeriodApart 1 2 :=
  ⟨by decide, rear_contributes 1 (Or.inl rfl), rear_contributes 2 (Or.inr rfl)⟩

theorem rear_cloud_between_front_clouds : ∃ received trigger earlier : Arrival 2 Unit,
    halfPeriodApart[1]? = some received ∧ Near earlier.cloud received.cloud ∧
      Near trigger.cloud received.cloud ∧ earlier.topic = trigger.topic ∧ trigger.topic ≠ received.topic := by
  obtain ⟨received, trigger, earlier, p, found, -, -, -, other_topic, same_topic, near, near'⟩ :=
    reused_between_two_near (rear_contributes 1 (Or.inl rfl)) (rear_contributes 2 (Or.inr rfl)) (by decide)
  exact ⟨received, trigger, earlier, found, near, near', same_topic, other_topic⟩

end AsDt1.Guarantees
