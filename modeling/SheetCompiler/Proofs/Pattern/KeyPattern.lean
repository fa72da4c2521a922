import SheetCompiler.Localization.Extraction

/-!
# The standard key pattern

Where the positions of a match go: an assertion keeps them, a character class carries them
over one character, and a repeated class over a whole stretch of its characters. So the
standard pattern finds every key behind its mark.
-/

set_option autoImplicit false

namespace SheetCompiler

namespace Pattern

variable {text : List Char} {c : Char} {cls : CharClass} {place : Nat}

namespace Marks

variable {marks seen newest : Marks}

/-! ## Single steps -/

theorem length_surroundings (before : Option Char) (text : List Char) :
    (surroundings before text).length = text.length + 1 := by
  induction text generalizing before with
  | nil => rfl
  | cons c text ih => rw [surroundings, List.length_cons, ih, List.length_cons]

theorem getElem?_surroundings_end (before : Option Char) (text : List Char) :
    ∃ last, (surroundings before text)[text.length]? = some (last, Option.none) := by
  induction text generalizing before with
  | nil => exact ⟨before, rfl⟩
  | cons c text ih => exact ih (some c)

theorem length_advance (cls : CharClass) (count : marks.length = text.length + 1) :
    (marks.advance cls text).length = text.length + 1 := by
  unfold advance
  rw [List.length_cons, List.length_zipWith, count]
  omega

theorem advance_succ (here : marks[place]? = some true) (reads : text[place]? = some c)
    (inside : cls.contains c = true) : (marks.advance cls text)[place + 1]? = some true := by
  unfold advance
  rw [List.getElem?_cons_succ, List.getElem?_zipWith, here, reads]
  exact congrArg some inside

theorem holding_textStart (text : List Char) (here : marks[0]? = some true) :
    (marks.holding .textStart text)[0]? = some true := by
  unfold holding
  rw [List.getElem?_zipWith, here]
  cases text <;> rfl

theorem any_holding_textEnd (here : marks[text.length]? = some true) :
    (marks.holding .textEnd text).any id = true := by
  obtain ⟨last, ends⟩ := getElem?_surroundings_end Option.none text
  have there : (marks.holding .textEnd text)[text.length]? = some true := by
    unfold holding
    rw [List.getElem?_zipWith, here, ends]
    rfl
  exact List.any_eq_true.mpr ⟨true, List.mem_of_getElem? there, rfl⟩

/-! ## Repetition -/

theorem union_iff (marks other : Marks) (count : other.length = marks.length) (place : Nat) :
    (marks.union other)[place]? = some true ↔
      marks[place]? = some true ∨ other[place]? = some true := by
  unfold union
  rw [List.getElem?_zipWith]
  by_cases within : place < marks.length
  · rw [List.getElem?_eq_getElem within, List.getElem?_eq_getElem (count ▸ within)]
    simp
  · rw [List.getElem?_eq_none (by omega), List.getElem?_eq_none (by omega)]
    simp

theorem without_iff (marks other : Marks) (count : other.length = marks.length) (place : Nat) :
    (marks.without other)[place]? = some true ↔
      marks[place]? = some true ∧ other[place]? ≠ some true := by
  unfold without
  rw [List.getElem?_zipWith]
  by_cases within : place < marks.length
  · rw [List.getElem?_eq_getElem within, List.getElem?_eq_getElem (count ▸ within)]
    simp
  · rw [List.getElem?_eq_none (by omega)]
    simp

theorem none_eq_false (here : marks[place]? = some true) : marks.none = false := by
  unfold none
  rw [← Bool.not_eq_true, List.all_eq_true]
  intro all
  cases all true (List.mem_of_getElem? here)

/-- What has been reached stays reached. -/
theorem spread_keeps (fuel : Nat) (count : seen.length = text.length + 1)
    (also : newest.length = text.length + 1) (here : seen[place]? = some true) :
    (spread (advance cls text) fuel seen newest)[place]? = some true := by
  induction fuel generalizing seen newest with
  | zero => exact here
  | succ fuel ih =>
      rw [spread]
      split
      · exact here
      · have step := length_advance cls also
        have reached : ((advance cls text newest).without seen).length = text.length + 1 := by
          rw [without, List.length_zipWith, step, count, Nat.min_self]
        refine ih ?_ reached ?_
        · rw [union, List.length_zipWith, count, reached, Nat.min_self]
        · exact (union_iff seen _ (reached.trans count.symm) place).mpr (.inl here)

/-- A repeated class goes on over its characters. What was reached before the newest
positions has already gone on. -/
theorem spread_advance {distance fuel : Nat} (enough : distance ≤ fuel)
    (count : seen.length = text.length + 1) (also : newest.length = text.length + 1)
    (closed : ∀ place c, seen[place]? = some true → newest[place]? ≠ some true →
      text[place]? = some c → cls.contains c = true → seen[place + 1]? = some true)
    (here : seen[place]? = some true)
    (inside : ∀ k < distance, ∃ c, text[place + k]? = some c ∧ cls.contains c = true) :
    (spread (advance cls text) fuel seen newest)[place + distance]? = some true := by
  induction distance generalizing place fuel seen newest with
  | zero => exact spread_keeps fuel count also here
  | succ distance ih =>
      obtain ⟨c, reads, member⟩ := inside 0 (Nat.succ_pos distance)
      have later (k : Nat) (bound : k < distance) :
          ∃ c, text[place + 1 + k]? = some c ∧ cls.contains c = true := by
        have next := inside (k + 1) (Nat.succ_lt_succ bound)
        rwa [show place + (k + 1) = place + 1 + k by omega] at next
      rw [show place + (distance + 1) = place + 1 + distance by omega]
      by_cases fresh : newest[place]? = some true
      · obtain _ | fuel := fuel
        · cases enough
        · have step := length_advance cls also
          have reached : ((advance cls text newest).without seen).length = text.length + 1 := by
            rw [without, List.length_zipWith, step, count, Nat.min_self]
          have grown := union_iff seen _ (reached.trans count.symm)
          have added := without_iff (advance cls text newest) seen (count.trans step.symm)
          -- whatever the newest positions step to is reached now, if it was not before
          have moved {place : Nat} {c : Char} (start : newest[place]? = some true)
              (reads : text[place]? = some c) (member : cls.contains c = true) :
              (seen.union ((advance cls text newest).without seen))[place + 1]? = some true := by
            rw [grown, added]
            by_cases known : seen[place + 1]? = some true
            · exact .inl known
            · exact .inr ⟨advance_succ start reads member, known⟩
          rw [spread, if_neg (by rw [none_eq_false fresh]; exact Bool.false_ne_true)]
          refine ih (Nat.le_of_succ_le_succ enough) ?_ reached ?_ (moved fresh reads member) later
          · rw [union, List.length_zipWith, count, reached, Nat.min_self]
          · intro place c start old reads member
            rcases (grown place).mp start with known | new
            · by_cases recent : newest[place]? = some true
              · exact moved recent reads member
              · exact (grown _).mpr (.inl (closed place c known recent reads member))
            · exact absurd new old
      · exact ih (Nat.le_of_succ_le enough) count also closed
          (closed place c here fresh reads member) later

end Marks

/-! ## Patterns -/

theorem length_reach_one {marks : Marks} (cls : CharClass)
    (count : marks.length = text.length + 1) :
    ((Pattern.one cls).reach text marks).length = text.length + 1 :=
  Marks.length_advance cls count

/-- A class that occurs at least once matches any stretch of its characters. -/
theorem reach_repeated (cls : CharClass) (distance : Nat) {marks : Marks}
    (count : marks.length = text.length + 1)
    (here : marks[place]? = some true) (within : place + distance < text.length)
    (inside : ∀ k ≤ distance, ∃ c, text[place + k]? = some c ∧ cls.contains c = true) :
    ((Pattern.repeated (.one cls) 1 none).reach text marks)[place + distance + 1]? =
      some true := by
  obtain ⟨c, reads, member⟩ := inside 0 (Nat.zero_le distance)
  have limit : min 1 (text.length + 1) = 1 := by omega
  have begun := Marks.advance_succ here reads member
  have started := length_reach_one cls count
  rw [reach, limit, show place + distance + 1 = place + 1 + distance by omega]
  refine Marks.spread_advance (by simp only [Option.map_none, Option.getD_none]; omega) started
    started ?_ begun fun k bound => ?_
  · exact fun place c known old => absurd known old
  · have next := inside (k + 1) bound
    rwa [show place + (k + 1) = place + 1 + k by omega] at next

/-! ## Keys -/

/-- The characters that keys are made of. -/
def keyClass : CharClass :=
  .union (.union (.union .never (.range 'A' 'Z')) (.range '0' '9')) (.one '_')

def standardKey : Pattern :=
  .seq
    (.seq
      (.seq
        (.seq
          (.seq
            (.seq (.look .textStart) (.one (.one 'L')))
            (.one (.one 'O')))
          (.one (.one 'C')))
        (.one (.one '_')))
      (.repeated (.one keyClass) 1 none))
    (.look .textEnd)

theorem ofText_standard :
    Pattern.ofText LocalizationSettings.standard.keyPattern = .ok standardKey := by
  have read : (Pattern.ofText LocalizationSettings.standard.keyPattern).toOption =
      some standardKey := by decide +kernel
  cases outcome : Pattern.ofText LocalizationSettings.standard.keyPattern with
  | error fault =>
      rw [outcome] at read
      cases read
  | ok pattern =>
      rw [outcome] at read
      rw [Option.some.inj read]

/-- The standard pattern finds the keys behind their mark. -/
theorem isFoundIn_standardKey {key : String} (filled : key.toList ≠ [])
    (keyed : ∀ c ∈ key.toList, keyClass.contains c = true) :
    standardKey.isFoundIn (Localization.keyMark ++ key) = true := by
  have mark : (Localization.keyMark ++ key).toList = 'L' :: 'O' :: 'C' :: '_' :: key.toList :=
    String.toList_append
  unfold isFoundIn
  generalize (Localization.keyMark ++ key).toList = text at mark
  have size : text.length = 4 + key.toList.length := by
    rw [mark]
    simp only [List.length_cons]
    omega
  have letter {place : Nat} {c : Char} {marks : Marks} (reads : text[place]? = some c)
      (here : marks[place]? = some true) :
      (marks.advance (.one c) text)[place + 1]? = some true :=
    Marks.advance_succ here reads (by simp [CharClass.one, CharClass.contains])
  have front := Marks.holding_textStart text
    (show (List.replicate (text.length + 1) true)[0]? = some true from rfl)
  have marked := letter (c := '_') (by rw [mark]; rfl) (letter (c := 'C') (by rw [mark]; rfl)
    (letter (c := 'O') (by rw [mark]; rfl) (letter (c := 'L') (by rw [mark]; rfl) front)))
  have count : (Marks.holding .textStart text
      (List.replicate (text.length + 1) true)).length = text.length + 1 := by
    rw [Marks.holding, List.length_zipWith, Marks.length_surroundings, List.length_replicate,
      Nat.min_self]
  have full : 0 < key.toList.length := List.length_pos_iff.mpr filled
  have ends := reach_repeated keyClass (key.toList.length - 1)
    (length_reach_one _ (length_reach_one _ (length_reach_one _ (length_reach_one _ count)))) marked
    (by omega) fun k bound => by
      have present : k < key.toList.length := by omega
      refine ⟨key.toList[k], ?_, keyed _ (List.getElem_mem present)⟩
      rw [mark, ← List.getElem?_eq_getElem present, Nat.add_comm]
      rfl
  rw [show 0 + 1 + 1 + 1 + 1 + (key.toList.length - 1) + 1 = text.length by omega] at ends
  exact Marks.any_holding_textEnd ends

end Pattern

end SheetCompiler
