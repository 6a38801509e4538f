import AsDt1.Guarantees.CloudReuse
import AsDt1.Guarantees.MergedPointTime

/-!
# Stamps of the combined clouds

Which topics are merged depends on the layouts alone. Where each topic keeps its
layout, two published clouds are merged from the same topics, the later one from
clouds that arrived no earlier, and their stamps are the maxima of the two sets.
-/
namespace AsDt1.Guarantees
open AsDt1.Lib AsDt1.Source AsDt1.Source.Combiner

variable {n : Nat} {T : Type}

/-- How the cloud published in the round of arrival `m` comes about from the latest
clouds of all topics. -/
structure CombinedFrom (targetFrame : String) (arrivals : List (Arrival n T)) (m : Nat)
    (latest : Fin n → PointCloud2) (out : PointCloud2) : Prop where
  /-- None of its topic came between the cloud and this round. -/
  held : ∀ topic, ∃ k received, arrivals[k]? = some received ∧ received.topic = topic ∧
    received.cloud = latest topic ∧ Held Arrival.topic (arrivals.take (m + 1)) k
  near : ∀ topic other, Near (latest topic) (latest other)
  built : ∃ parts, List.Forall₂ (Rewritten targetFrame) (merged (List.ofFn latest)) parts ∧
    out.data = parts.flatMap PointCloud2.data
  stamp_merged : out.stampNs ∈ (merged (List.ofFn latest)).map PointCloud2.stampNs
  stamp_largest : ∀ cloud ∈ merged (List.ofFn latest), cloud.stampNs ≤ out.stampNs

/-- The latest clouds are the slots' entries after arrival `m`. -/
theorem published_from {rigid : T → Point3 → Point3} {targetFrame : String} {arrivals : List (Arrival n T)}
    {m : Nat} {out : PointCloud2} (published : PublishedAt rigid targetFrame arrivals m out) :
    ∃ latest : Fin n → Arrival n T,
      (∀ topic, slots Arrival.topic (arrivals.take (m + 1)) topic = some (latest topic)) ∧
        CombinedFrom targetFrame arrivals m (fun topic => (latest topic).cloud) out := by
  obtain ⟨s, trigger, ran, arrived, round⟩ := published
  obtain ⟨s', round⟩ := publishes_spec round
  obtain ⟨first, rest, transformed, filled, recent, rewritten, built⟩ := tryPublishCombined_spec round
  obtain ⟨clouds, in_slots, all_clouds⟩ := mapM_finRange_eq_some_iff.mp filled
  rw [combiner_slots_at arrived ran] at in_slots
  choose latest in_bank of_cloud using fun topic => Option.map_eq_some_iff.mp (in_slots topic)
  obtain rfl : (fun topic => (latest topic).cloud) = clouds := funext of_cloud
  have listed : ∀ topic, (latest topic).cloud ∈ first :: rest := by
    intro topic
    rw [all_clouds]
    exact List.mem_ofFn.mpr ⟨topic, rfl⟩
  have target : (s.hold trigger.topic trigger.cloud).targetFrame = targetFrame := combiner_target ran
  rw [target] at rewritten built
  have kept := merged_rewritten rewritten
  have stamps := rewritten_stamps kept
  obtain ⟨base, bases, rfl⟩ : ∃ base bases, transformed = base :: bases := by
    cases rewritten
    exact ⟨_, _, rfl⟩
  obtain ⟨-, -, data, attained, largest⟩ := buildCombinedCloud_spec built
  rw [all_clouds] at kept stamps
  rw [stamps] at attained largest
  refine ⟨latest, in_bank, ?_, ?_, ⟨_, kept, data⟩, attained, ?_⟩
  · intro topic
    obtain ⟨k, found, of_topic, held⟩ := held_of_slot (in_bank topic)
    rw [List.getElem?_take_of_lt held.lt] at found
    exact ⟨k, latest topic, found, of_topic, rfl, held⟩
  · intro topic other
    exact ⟨within_tolerance recent (listed topic) (listed other),
      within_tolerance recent (listed other) (listed topic)⟩
  · intro cloud among
    exact largest _ (List.mem_map_of_mem among)

/-! ## Two rounds -/

/-- Bigger stamps in the same layouts are merged to a bigger stamp. -/
theorem largest_stamp_le {earlier later : Fin n → PointCloud2} {stampNs bound : Nat}
    (moved_up : ∀ topic, (earlier topic).stampNs ≤ (later topic).stampNs ∧
      sameLayout (earlier topic) (later topic) = true)
    (attained : stampNs ∈ (merged (List.ofFn earlier)).map PointCloud2.stampNs)
    (largest : ∀ cloud ∈ merged (List.ofFn later), cloud.stampNs ≤ bound) : stampNs ≤ bound := by
  have related : List.Forall₂ (fun cloud other : PointCloud2 => cloud.stampNs ≤ other.stampNs ∧
      sameLayout cloud other = true) (List.ofFn earlier) (List.ofFn later) := by
    rw [List.ofFn_eq_map, List.ofFn_eq_map, List.forall₂_map_left_iff, List.forall₂_map_right_iff,
      List.forall₂_same]
    exact fun topic _ => moved_up topic
  obtain ⟨cloud, among, rfl⟩ := List.mem_map.mp attained
  obtain ⟨other, among_later, newer, -⟩ :=
    exists_related_of_mem (merged_related related fun _ _ both => both.2) among
  exact newer.trans (largest other among_later)

/-- For every interleaving of arrivals in which each topic keeps its layout and its
stamps never decrease: a combined cloud is made of the latest cloud of every topic,
and the stamps of the combined clouds never decrease. -/
theorem combined_stamps_never_decrease {rigid : T → Point3 → Point3} {targetFrame : String}
    {arrivals : List (Arrival n T)}
    (ordered : arrivals.Pairwise fun a later => a.topic = later.topic → a.cloud.stampNs ≤ later.cloud.stampNs)
    (layout : arrivals.Pairwise fun a later => a.topic = later.topic →
      later.cloud.fields = a.cloud.fields ∧ later.cloud.pointStep = a.cloud.pointStep) :
    (∀ m out, PublishedAt rigid targetFrame arrivals m out →
      ∃ latest, CombinedFrom targetFrame arrivals m latest out) ∧
    ∀ m m' out out', m ≤ m' → PublishedAt rigid targetFrame arrivals m out →
      PublishedAt rigid targetFrame arrivals m' out' → out.stampNs ≤ out'.stampNs := by
  constructor
  · intro m out published
    obtain ⟨latest, -, combined⟩ := published_from published
    exact ⟨_, combined⟩
  · intro m m' out out' upto published published'
    obtain ⟨earlier, in_bank, combined⟩ := published_from published
    obtain ⟨later, in_bank', combined'⟩ := published_from published'
    refine largest_stamp_le (fun topic => ?_) combined.stamp_merged combined'.stamp_largest
    have before : m + 1 ≤ m' + 1 := by omega
    constructor
    · exact slots_ordered (R := fun a later => a.cloud.stampNs ≤ later.cloud.stampNs)
        (fun _ => le_refl _) ordered before (in_bank topic) (in_bank' topic)
    · have same := slots_ordered
        (R := fun a later => later.cloud.fields = a.cloud.fields ∧ later.cloud.pointStep = a.cloud.pointStep)
        (fun _ => ⟨rfl, rfl⟩) layout before (in_bank topic) (in_bank' topic)
      exact sameLayout_iff.mpr same.symm

theorem published_of_contributes {rigid : T → Point3 → Point3} {targetFrame : String}
    {arrivals : List (Arrival n T)} {k m : Nat} (contributes : Contributes rigid targetFrame arrivals k m) :
    ∃ out, PublishedAt rigid targetFrame arrivals m out := by
  obtain ⟨s, trigger, out, -, -, ran, arrived, published, -⟩ := contributes
  exact ⟨out, s, trigger, ran, arrived, published⟩

/-- Three clouds at 30 Hz, half a period apart: both publications, in order. -/
theorem half_period_apart_in_order : ∃ out out',
    PublishedAt (fun _ point => point) "base_link" halfPeriodApart 1 out ∧
      PublishedAt (fun _ point => point) "base_link" halfPeriodApart 2 out' ∧ out.stampNs ≤ out'.stampNs := by
  obtain ⟨out, first⟩ := published_of_contributes (rear_contributes 1 (Or.inl rfl))
  obtain ⟨out', second⟩ := published_of_contributes (rear_contributes 2 (Or.inr rfl))
  exact ⟨out, out', first, second,
    (combined_stamps_never_decrease (by decide) (by decide)).2 1 2 out out' (by decide) first second⟩

end AsDt1.Guarantees
