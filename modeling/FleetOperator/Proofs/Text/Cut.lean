import Mathlib.Data.List.TakeWhile

/-!
# Where a text is cut

A text is cut where characters of a kind stop. There is one place for that: the
part in front has only characters of the kind, and the part behind does not start
with one (`takeWhile_dropWhile_eq_iff`).

Or it is cut at its first separator, which is the one with the least in front of
it. A text with any separator has a first one (`exists_firstSeparator`), and what
is behind that is settled by the text (`FirstSeparator.unique`).
-/

namespace FleetOperator.Text

/-! ## Where characters of a kind stop -/

theorem takeWhile_dropWhile_eq_iff (p : Char → Bool) (text : List Char) {front back : List Char} :
    text.takeWhile p = front ∧ text.dropWhile p = back ↔
      text = front ++ back ∧ (∀ c ∈ front, p c = true) ∧ ∀ c ∈ back.head?, p c = false := by
  constructor
  · rintro ⟨rfl, rfl⟩
    refine ⟨List.takeWhile_append_dropWhile.symm, fun c hc => List.mem_takeWhile_imp hc, ?_⟩
    intro c hc
    have hnot := List.head?_dropWhile_not p text
    rw [Option.mem_def.1 hc] at hnot
    exact hnot
  · rintro ⟨rfl, hfront, hback⟩
    have hstops : back.takeWhile p = [] ∧ back.dropWhile p = back := by
      cases back with
      | nil => exact ⟨rfl, rfl⟩
      | cons c back =>
          rw [List.takeWhile_cons, List.dropWhile_cons, hback c rfl]
          exact ⟨rfl, rfl⟩
    rw [List.takeWhile_append_of_pos hfront, List.dropWhile_append_of_pos hfront, hstops.1,
      hstops.2, List.append_nil]
    exact ⟨rfl, rfl⟩

/-! ## At the first separator -/

/-- What is in front of the first separator of a text and what is behind it. -/
structure FirstSeparator (separator text front back : List Char) : Prop where
  split : text = front ++ (separator ++ back)
  least : ∀ front' back', text = front' ++ (separator ++ back') → front.length ≤ front'.length

section

variable {separator text front back : List Char}

theorem FirstSeparator.isInfix (h : FirstSeparator separator text front back) :
    separator <:+: text :=
  ⟨front, back, by rw [h.split, List.append_assoc]⟩

theorem FirstSeparator.unique {front' back' : List Char}
    (h : FirstSeparator separator text front back)
    (hother : FirstSeparator separator text front' back') : back = back' := by
  have hlength : front.length = front'.length :=
    Nat.le_antisymm (h.least _ _ hother.split) (hother.least _ _ h.split)
  obtain ⟨-, hbehind⟩ := List.append_inj (h.split.symm.trans hother.split) hlength
  exact List.append_cancel_left hbehind

theorem firstSeparator_append (separator back : List Char) :
    FirstSeparator separator (separator ++ back) [] back := by
  refine ⟨rfl, ?_⟩
  intro front' back' _
  exact Nat.zero_le _

/-- A text that does not start with a separator has its first one where its tail has it. -/
theorem firstSeparator_cons_iff {c : Char} (hno : ¬ separator <+: c :: text) :
    FirstSeparator separator (c :: text) front back ↔
      ∃ front', front = c :: front' ∧ FirstSeparator separator text front' back := by
  constructor
  · rintro ⟨hsplit, hleast⟩
    cases front with
    | nil => exact absurd ⟨back, hsplit.symm⟩ hno
    | cons d front =>
        obtain ⟨rfl, htext⟩ := List.cons.inj hsplit
        refine ⟨front, rfl, htext, ?_⟩
        intro front' back' hother
        have hle := hleast (c :: front') back' (by rw [hother, List.cons_append])
        simp only [List.length_cons] at hle
        omega
  · rintro ⟨front, rfl, hsplit, hleast⟩
    refine ⟨by rw [hsplit, List.cons_append], ?_⟩
    intro front' back' hother
    cases front' with
    | nil => exact absurd ⟨back', hother.symm⟩ hno
    | cons d front' =>
        have hle := hleast front' back' (List.cons.inj hother).2
        simp only [List.length_cons]
        omega

theorem exists_firstSeparator (h : separator <:+: text) :
    ∃ front back, FirstSeparator separator text front back := by
  induction text with
  | nil =>
      obtain rfl := List.infix_nil.1 h
      exact ⟨[], [], firstSeparator_append [] []⟩
  | cons c text ih =>
      by_cases hstarts : separator <+: c :: text
      · obtain ⟨back, hback⟩ := hstarts
        rw [← hback]
        exact ⟨[], back, firstSeparator_append separator back⟩
      · obtain ⟨front, back, hsplit⟩ := ih ((List.infix_cons_iff.1 h).resolve_left hstarts)
        exact ⟨c :: front, back, (firstSeparator_cons_iff hstarts).2 ⟨front, rfl, hsplit⟩⟩

end

end FleetOperator.Text
