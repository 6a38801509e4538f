import AsDt1.Guarantees.CloudReuse
import AsDt1.Source.NodeRuns

/-!
# Stamps of the fused IMU messages

A fused message has the stamp of the message in slot 0, and every arrival on any
IMU topic tries the fusion again with the slots as they are. So the stamps never
go back, and move on exactly when slot 0 was filled again.
-/
namespace AsDt1.Guarantees
open AsDt1.Lib AsDt1.Source AsDt1.Source.Combiner

variable {n m : Nat} {K T : Type}

/-- The stamps of each IMU topic strictly increase. -/
def ImuStampsIncrease (arrivals : List (NodeArrival n m K T)) : Prop :=
  arrivals.Pairwise fun a later => ∀ msg ∈ a.imuMsg, ∀ msg' ∈ later.imuMsg, a.imuTopic = later.imuTopic →
    msg.stampNs < msg'.stampNs

instance (arrivals : List (NodeArrival n m K T)) : Decidable (ImuStampsIncrease arrivals) :=
  inferInstanceAs (Decidable (arrivals.Pairwise _))

theorem slot_of_lastImus {arrivals : List (NodeArrival n m K T)} {topic : Fin m} {msg : Imu K}
    (held : lastImus arrivals topic = some msg) :
    slots NodeArrival.imuTopic arrivals (some topic) = some (.imu topic msg) := by
  obtain ⟨entry, in_bank, of_entry⟩ := Option.bind_eq_some_iff.mp held
  obtain ⟨k, -, of_topic, -⟩ := held_of_slot in_bank
  cases entry with
  | cloud a => cases of_entry
  | imu topic' msg' =>
    cases of_entry
    cases of_topic
    exact in_bank

variable [Zero K] [One K] [Add K] [Neg K] [Div K] [NatCast K] [LE K] [DecidableLE K]

/-- A fused message has the stamp of the latest message of the first topic. -/
theorem fused_from {rigid : T → Point3 → Point3} {rotate : T → Vec3 K → Vec3 K} {targetFrame : String}
    {arrivals : List (NodeArrival n m K T)} {p : Nat} {fused : Imu K}
    (published : FusedAt rigid rotate targetFrame arrivals p fused) :
    ∃ (positive : 0 < m) (first : Imu K), lastImus (arrivals.take (p + 1)) ⟨0, positive⟩ = some first ∧
      fused.stampNs = first.stampNs := by
  obtain ⟨s, trigger, ran, arrived, round⟩ := published
  cases trigger with
  | cloud a => cases round
  | imu topic msg =>
    obtain ⟨imus, positive, av, la, in_slots, -, -, rfl⟩ := tryPublishCombinedImu_spec round
    refine ⟨positive, imus ⟨0, positive⟩, ?_, rfl⟩
    rw [← latestImus_at arrived ran]
    exact in_slots _

/-- For every interleaving in which each IMU topic's stamps strictly increase, the
stamps of the fused messages never decrease, and increase from one fused message to
a later one exactly when a message of the first topic arrived in between. -/
theorem fused_stamps {rigid : T → Point3 → Point3} {rotate : T → Vec3 K → Vec3 K} {targetFrame : String}
    {arrivals : List (NodeArrival n m K T)} (ordered : ImuStampsIncrease arrivals) {p p' : Nat}
    {fused fused' : Imu K} (later : p < p') (published : FusedAt rigid rotate targetFrame arrivals p fused)
    (published' : FusedAt rigid rotate targetFrame arrivals p' fused') :
    fused.stampNs ≤ fused'.stampNs ∧
      (fused.stampNs < fused'.stampNs ↔
        ∃ q topic msg, p < q ∧ q ≤ p' ∧ topic.val = 0 ∧ arrivals[q]? = some (.imu topic msg)) := by
  obtain ⟨positive, first, held, stamp⟩ := fused_from published
  obtain ⟨_, first', held', stamp'⟩ := fused_from published'
  have upto : p + 1 ≤ p' + 1 := by omega
  obtain ⟨k, k', found, found', -, -, before, moves_up, stays, stays'⟩ :=
    slots_at upto (slot_of_lastImus held) (slot_of_lastImus held')
  have before' := stays'.lt
  rw [stamp, stamp']
  rcases Nat.lt_or_eq_of_le moves_up with refilled | rfl
  · have increased : first.stampNs < first'.stampNs := by
      obtain ⟨listed, at_k⟩ := List.getElem?_eq_some_iff.mp found
      obtain ⟨listed', at_k'⟩ := List.getElem?_eq_some_iff.mp found'
      have in_order := List.pairwise_iff_getElem.mp ordered k k' listed listed' refilled
      rw [at_k, at_k'] at in_order
      exact in_order first rfl first' rfl rfl
    have in_between : p < k' := by
      by_contra not_after
      exact stays.later found found' refilled (by omega) rfl
    refine ⟨by omega, iff_of_true increased ⟨k', ⟨0, positive⟩, first', in_between, by omega, rfl, found'⟩⟩
  · obtain rfl : first = first' := by
      rw [found] at found'
      injection found' with same
      injection same
    refine ⟨le_refl _, iff_of_false (lt_irrefl _) ?_⟩
    rintro ⟨q, topic, msg, after, upto, is_first, arrived⟩
    refine stays'.later found arrived (by omega) (by omega) ?_
    exact congrArg some (Fin.ext is_first)

/-! ## Two cameras with an IMU each -/

def imuAt (topic : Fin 2) (nanosec : Nat) : NodeArrival 2 2 Int Unit :=
  .imu topic {
    header := ⟨⟨100, nanosec⟩, "dt1_depth_frame"⟩
    orientation := ⟨0, 0, 0, 0⟩
    orientationCovariance := List.Vector.replicate 9 (-1)
    angularVelocity := ⟨0, 0, 0⟩
    angularVelocityCovariance := List.Vector.replicate 9 0
    linearAcceleration := ⟨0, 0, 0⟩
    linearAccelerationCovariance := List.Vector.replicate 9 0 }

/-- After a cloud of each camera: the first IMU once, then the second one twice within 10 ms. -/
def secondImuAhead : List (NodeArrival 2 2 Int Unit) :=
  [.cloud (frameAt frontTopic 0), .cloud (frameAt rearTopic 5000000), imuAt frontTopic 10000000,
    imuAt rearTopic 9000000, imuAt rearTopic 19000000, imuAt frontTopic 20000000]

theorem second_imu_fuses (p : Nat) (listed : p = 3 ∨ p = 4 ∨ p = 5) :
    ∃ fused, FusedAt (fun _ point => point) (fun _ vector => vector) "base_link" secondImuAhead p fused ∧
      fused.stampNs = if p = 5 then 100020000000 else 100010000000 := by
  rcases listed with rfl | rfl | rfl
  · exact ⟨_, ⟨_, _, rfl, rfl, rfl⟩, rfl⟩
  · exact ⟨_, ⟨_, _, rfl, rfl, rfl⟩, rfl⟩
  · exact ⟨_, ⟨_, _, rfl, rfl, rfl⟩, rfl⟩

/-- Two fused messages with one stamp. -/
theorem fused_stamp_repeated : ImuStampsIncrease secondImuAhead ∧
    ∃ fused fused', FusedAt (fun _ point => point) (fun _ vector => vector) "base_link" secondImuAhead 3 fused ∧
      FusedAt (fun _ point => point) (fun _ vector => vector) "base_link" secondImuAhead 4 fused' ∧
      ¬ fused.stampNs < fused'.stampNs := by
  obtain ⟨fused, published, stamp⟩ := second_imu_fuses 3 (by decide)
  obtain ⟨fused', published', stamp'⟩ := second_imu_fuses 4 (by decide)
  refine ⟨by decide, fused, fused', published, published', ?_⟩
  rw [stamp, stamp']
  decide

theorem fused_stamp_moves_on : ∃ fused fused',
    FusedAt (fun _ point => point) (fun _ vector => vector) "base_link" secondImuAhead 4 fused ∧
      FusedAt (fun _ point => point) (fun _ vector => vector) "base_link" secondImuAhead 5 fused' ∧
      fused.stampNs < fused'.stampNs := by
  obtain ⟨fused, published, -⟩ := second_imu_fuses 4 (by decide)
  obtain ⟨fused', published', -⟩ := second_imu_fuses 5 (by decide)
  refine ⟨fused, fused', published, published', ?_⟩
  exact (fused_stamps (by decide) (by decide) published published').2.mpr
    ⟨5, 0, _, by decide, by decide, rfl, rfl⟩

end AsDt1.Guarantees
