import AsDt1.Lib.Delimited
import AsDt1.Source.SerialTransfers

/-!
# Lines from the port

`Serial::readline` reads octet by octet and stops at the first end of a line, at
the size of its buffer or when an octet does not come in time. It looks at the
size only behind as many octets as the end of a line has.
-/
namespace AsDt1.Source.SerialImpl
open AsDt1.Lib Routine

variable {σ : Type} (sys : System σ) (settings : PortSettings)

/-- The tests behind an octet. -/
def IsLineEnd (size : Nat) (eol buffer : Octets) : Prop := eol <:+ buffer ∨ buffer.length = size

/-- The buffer has room for the tests to work. -/
def Roomy (size : Nat) (eol : Octets) : Prop := 0 < size ∧ eol.length ≤ size

variable {p q : Port σ} {size : Nat} {eol line : Octets}

theorem Unended.below_size (unended : Unended (IsLineEnd size eol) line) (room : Roomy size eol) :
    line.length < size := by
  by_contra long
  have sized : (line.take size).length = size := by
    rw [List.length_take]
    omega
  have some_ : line.take size ≠ [] := by
    intro none
    rw [none] at sized
    exact absurd sized (Nat.ne_of_lt room.1)
  exact unended (line.take size) (List.take_prefix ..) some_ (.inr sized)

/-- An octet of the line did not come in time. -/
def TimedOut (settings : PortSettings) (p q : Port σ) : Prop :=
  ∃ earlier readings, p.readings <+: earlier ∧ q.readings = earlier ++ readings ∧
    Expired (readTimeoutMs settings 1) readings

structure LineEnds (sys : System σ) (settings : PortSettings) (size : Nat) (eol : Octets) (p : Port σ)
    (line : Octets) (q : Port σ) : Prop where
  transferred : Transferred sys p q line []
  whole : FirstEnd (IsLineEnd size eol) line ∨ Unended (IsLineEnd size eol) line ∧ TimedOut settings p q

/-- An exception in the middle of a line, of which `lost` had been read. -/
def LineLost (sys : System σ) (size : Nat) (eol : Octets) (p : Port σ) (failure : PortFailure) (t : Port σ) :
    Prop :=
  failure.isException = true ∧ ∃ lost, Transferred sys p t lost [] ∧ Unended (IsLineEnd size eol) lost

/-! ## The loop -/

/-- What is known of a read of one octet behind a part of a line: `P` goes on with the
line, `D` holds if there was no octet. -/
def OctetRule (sys : System σ) (settings : PortSettings) (P D : Octets → Port σ → Prop)
    (X : Octets → PortFailure → Port σ → Prop) : Prop :=
  ∀ buffer, Total (P buffer) (read sys settings 1)
    (fun data t => data.length ≤ 1 ∧ (data = [] → D buffer t) ∧ P (buffer ++ data) t) (X buffer)

/-- Where a pass of the loop leaves the line. -/
def LineGoesOn (size : Nat) (eol : Octets) (P D : Octets → Port σ → Prop) (n : Nat) :
    (answer : Octets ⊕ Octets) → Port σ → Prop
  | .inl buffer, t => (P buffer t ∧ Unended (IsLineEnd size eol) buffer) ∧ size - buffer.length < n
  | .inr buffer, t => P buffer t ∧
      (FirstEnd (IsLineEnd size eol) buffer ∨ Unended (IsLineEnd size eol) buffer ∧ D buffer t)

variable {sys settings} {P D : Octets → Port σ → Prop} {X : Octets → PortFailure → Port σ → Prop}

theorem readlineRound_rule (room : Roomy size eol) (octet : OctetRule sys settings P D X) (buffer : Octets) (n : Nat) :
    Total (fun t => (P buffer t ∧ Unended (IsLineEnd size eol) buffer) ∧ size - buffer.length = n)
      (readlineRound sys settings size eol buffer) (LineGoesOn size eol P D n)
      fun failure t => ∃ lost, Unended (IsLineEnd size eol) lost ∧ X lost failure t := by
  rintro t ⟨⟨before, unended⟩, measured⟩
  have below := Unended.below_size unended room
  unfold readlineRound
  rcases (octet buffer).ends before with ⟨data, u, read, fits, none_came, after⟩ | ⟨failure, u, thrown, stopped⟩
  · rw [bind_ok read, if_neg (by omega)]
    by_cases none : data.length = 0
    · obtain rfl : data = [] := List.length_eq_zero_iff.mp none
      rw [List.append_nil] at after
      simp only [List.length_nil, if_true, List.append_nil]
      exact ⟨after, .inr ⟨unended, none_came rfl⟩⟩
    · obtain ⟨c, rfl⟩ : ∃ c, data = [c] := List.length_eq_one_iff.mp (by omega)
      have sized : (buffer ++ [c]).length = buffer.length + 1 := by simp
      simp only [if_neg none]
      by_cases few : (buffer ++ [c]).length < eol.length
      · rw [if_pos few]
        have goes_on : ¬ IsLineEnd size eol (buffer ++ [c]) := by
          rintro (ends | full)
          · exact absurd ends.length_le (by omega)
          · have enough := room.2
            omega
        exact ⟨⟨after, unended.snoc goes_on⟩, by omega⟩
      · rw [if_neg few]
        by_cases ends : (buffer ++ [c]).drop ((buffer ++ [c]).length - eol.length) = eol
        · rw [if_pos ends]
          have reached : IsLineEnd size eol (buffer ++ [c]) := .inl (List.suffix_iff_eq_drop.mpr ends.symm)
          exact ⟨after, .inl (unended.last reached)⟩
        · rw [if_neg ends]
          by_cases full : (buffer ++ [c]).length = size
          · rw [if_pos full]
            exact ⟨after, .inl (unended.last (.inr full))⟩
          · rw [if_neg full]
            have goes_on : ¬ IsLineEnd size eol (buffer ++ [c]) := by
              rintro (ends' | full')
              · exact ends (List.suffix_iff_eq_drop.mp ends').symm
              · exact full full'
            exact ⟨⟨after, unended.snoc goes_on⟩, by omega⟩
  · rw [bind_stop thrown]
    exact ⟨buffer, unended, stopped⟩

theorem readline_rule (room : Roomy size eol) (octet : OctetRule sys settings P D X) :
    Total (P []) (readline sys settings size eol)
      (fun line t => P line t ∧
        (FirstEnd (IsLineEnd size eol) line ∨ Unended (IsLineEnd size eol) line ∧ D line t))
      fun failure t => ∃ lost, Unended (IsLineEnd size eol) lost ∧ X lost failure t := by
  have looped := Total.loop (I := fun buffer t => P buffer t ∧ Unended (IsLineEnd size eol) buffer)
    (R := fun line t => P line t ∧
      (FirstEnd (IsLineEnd size eol) line ∨ Unended (IsLineEnd size eol) line ∧ D line t))
    (X := fun failure t => ∃ lost, Unended (IsLineEnd size eol) lost ∧ X lost failure t)
    (readlineRound sys settings size eol) (fun buffer _ => size - buffer.length) ?_ (size + 2) []
  · apply looped.conseq _ (fun _ _ ends => ends) fun _ _ lost => lost
    intro t before
    exact ⟨⟨before, .nil⟩, by show size - 0 < size + 2; omega⟩
  · intro buffer n
    apply (readlineRound_rule room octet buffer n).conseq (fun _ holds => holds) _ fun _ _ lost => lost
    rintro (buffer' | buffer') t goes
    · exact goes
    · exact goes

/-! ## Any system -/

theorem octet_transferred (p : Port σ) :
    OctetRule sys settings (fun buffer t => Transferred sys p t buffer []) (fun _ t => TimedOut settings p t)
      fun lost failure t => failure.isException = true ∧ Transferred sys p t lost [] := by
  intro buffer t moved
  have first := read_total sys settings t 1
  apply (first.conseq (fun _ same => same) _ _) t rfl
  · rintro data u ⟨taken, fits, short⟩
    have together := moved.trans taken
    rw [List.append_nil] at together
    refine ⟨fits, ?_, together⟩
    rintro rfl
    obtain ⟨readings, noted, expired⟩ := short (by decide)
    exact ⟨t.readings, readings, moved.readings, noted, expired⟩
  · rintro failure u ⟨exception, lost, taken, none⟩
    have nothing : lost = [] := by
      rcases none with none | none
      · exact none
      · exact List.length_eq_zero_iff.mp (by omega)
    subst nothing
    exact ⟨exception, moved.after taken⟩

variable (sys settings)

theorem readline_total (room : Roomy size eol) (p : Port σ) :
    Total (fun t => t = p) (readline sys settings size eol) (LineEnds sys settings size eol p)
      (LineLost sys size eol p) := by
  apply (readline_rule room (octet_transferred p : OctetRule sys settings _ _ _)).conseq
  · rintro t rfl
    exact .refl t
  · exact fun line t ends => ⟨ends.1, ends.2⟩
  · rintro failure t ⟨lost, unended, exception, taken⟩
    exact ⟨exception, lost, taken, unended⟩

/-! ## Calls in a row -/

/-- The calls that move octets, with the defaults of `Serial::readline`. -/
inductive Transfer where
  | read (size : Nat)
  | readline
  | write (data : Octets)
  deriving DecidableEq, Repr

def newline : Octets := [0x0A]

theorem default_roomy : Roomy 65536 newline := ⟨by decide, by decide⟩

/-- What the caller learns: the octets returned, and those reported as written. -/
def perform : Transfer → PortRoutine σ (Octets × Octets)
  | .read size => do
    let data ← read sys settings size
    return (data, [])
  | .readline => do
    let line ← readline sys settings 65536 newline
    return (line, [])
  | .write data => do
    let written ← write sys settings data
    return ([], data.take written)

def performAll : List Transfer → PortRoutine σ (List (Octets × Octets))
  | [] => return []
  | transfer :: rest => do
    let reply ← perform sys settings transfer
    let replies ← performAll rest
    return reply :: replies

theorem perform_total (p : Port σ) (transfer : Transfer) :
    Total (fun t => t = p) (perform sys settings transfer) (fun reply t => Transferred sys p t reply.1 reply.2)
      fun failure t => failure.isException = true ∧ ∃ lost given, Transferred sys p t lost given := by
  cases transfer with
  | read size =>
    apply Total.bind ((read_total sys settings p size).conseq (fun _ same => same) (fun _ _ ends => ends) _)
    · exact fun data => Total.pure fun _ ends => ends.transferred
    · rintro failure t ⟨exception, lost, taken, -⟩
      exact ⟨exception, lost, [], taken⟩
  | readline =>
    apply Total.bind ((readline_total sys settings default_roomy p).conseq (fun _ same => same)
      (fun _ _ ends => ends) _)
    · exact fun line => Total.pure fun _ ends => ends.transferred
    · rintro failure t ⟨exception, lost, taken, -⟩
      exact ⟨exception, lost, [], taken⟩
  | write data =>
    apply Total.bind ((write_total sys settings p data).conseq (fun _ same => same) (fun _ _ ends => ends) _)
    · exact fun written => Total.pure fun _ ends => ends.transferred
    · rintro failure t ⟨exception, written, ends⟩
      exact ⟨exception, [], _, ends.transferred⟩

end AsDt1.Source.SerialImpl
