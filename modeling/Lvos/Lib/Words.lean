import Mathlib.Data.List.DropRight
import Mathlib.Data.List.Induction

set_option autoImplicit false

namespace Words

/-! The non-empty parts of a list between the elements that separate them. -/

variable {α : Type} {blank : α → Bool}

/-- `split_whitespace`, for any separating elements. -/
def words (blank : α → Bool) (text : List α) : List (List α) :=
  (text.splitOnP blank).filter (fun part => !part.isEmpty)

/-- `trim`, for any separating elements. -/
def strip (blank : α → Bool) (text : List α) : List α :=
  (text.dropWhile blank).rdropWhile blank

def Solid (blank : α → Bool) (text : List α) : Prop :=
  ∀ element ∈ text, blank element = false

/-- A list is solid, or a solid list, a separating element and the rest. -/
theorem solid_induction {motive : List α → Prop} (solid : ∀ text, Solid blank text → motive text)
    (split : ∀ first separator rest, Solid blank first → blank separator = true → motive rest →
      motive (first ++ separator :: rest)) (text : List α) : motive text := by
  induction length : text.length using Nat.strong_induction_on generalizing text with
  | _ count ih =>
      have whole : text.takeWhile (fun element => !blank element) ++
          text.dropWhile (fun element => !blank element) = text := List.takeWhile_append_dropWhile
      have first : Solid blank (text.takeWhile (fun element => !blank element)) := by
        intro element member
        simpa using List.mem_takeWhile_imp member
      cases later : text.dropWhile (fun element => !blank element) with
      | nil =>
          rw [later, List.append_nil] at whole
          apply solid
          rw [← whole]
          exact first
      | cons separator rest =>
          have separates : blank separator = true := by
            have some : text.dropWhile (fun element => !blank element) ≠ [] := by
              rw [later]
              exact List.cons_ne_nil separator rest
            have head := List.head_dropWhile_not (fun element => !blank element) some
            simpa [later] using head
          rw [later] at whole
          rw [← whole]
          apply split _ separator rest first separates
          apply ih rest.length _ rest rfl
          rw [← length, ← whole, List.length_append, List.length_cons]
          omega

@[simp] theorem words_nil : words blank [] = [] := rfl

theorem words_solid {text : List α} (solid : Solid blank text) (present : text ≠ []) :
    words blank text = [text] := by
  have some : text.isEmpty = false := List.isEmpty_eq_false_iff.mpr present
  rw [words, List.splitOnP_eq_singleton solid, List.filter_cons_of_pos (by simp [some]),
    List.filter_nil]

@[simp] theorem words_append_cons {separator : α} (separates : blank separator = true)
    (first rest : List α) :
    words blank (first ++ separator :: rest) = words blank first ++ words blank rest := by
  rw [words, List.splitOnP_append_cons first rest separates, List.filter_append]
  rfl

theorem words_cons {separator : α} (separates : blank separator = true) (rest : List α) :
    words blank (separator :: rest) = words blank rest :=
  words_append_cons separates [] rest

theorem words_leading {run : List α} (blanks : ∀ element ∈ run, blank element = true)
    (text : List α) : words blank (run ++ text) = words blank text := by
  induction run with
  | nil => rfl
  | cons separator rest ih =>
      rw [List.cons_append, words_cons (blanks separator List.mem_cons_self)]
      exact ih (fun element member => blanks element (List.mem_cons_of_mem separator member))

/-- A run of separating elements splits like one of them. -/
theorem words_run {run : List α} (blanks : ∀ element ∈ run, blank element = true)
    (present : run ≠ []) (first rest : List α) :
    words blank (first ++ (run ++ rest)) = words blank first ++ words blank rest := by
  cases run with
  | nil => exact absurd rfl present
  | cons separator later =>
      rw [List.cons_append, words_append_cons (blanks separator List.mem_cons_self)]
      rw [words_leading (fun element member =>
        blanks element (List.mem_cons_of_mem separator member))]

theorem words_trailing {run : List α} (blanks : ∀ element ∈ run, blank element = true)
    (text : List α) : words blank (text ++ run) = words blank text := by
  by_cases empty : run = []
  · rw [empty, List.append_nil]
  · have split := words_run blanks empty text []
    rwa [List.append_nil, words_nil, List.append_nil] at split

theorem word_solid (text : List α) :
    ∀ word ∈ words blank text, word ≠ [] ∧ Solid blank word := by
  apply @solid_induction α blank _ _ _ text
  · intro whole solid word member
    by_cases empty : whole = []
    · rw [empty] at member
      cases member
    · rw [words_solid solid empty, List.mem_singleton] at member
      rw [member]
      exact ⟨empty, solid⟩
  · intro first separator rest solid separates ih word member
    rw [words_append_cons separates, List.mem_append] at member
    rcases member with early | late
    · by_cases empty : first = []
      · rw [empty] at early
        cases early
      · rw [words_solid solid empty, List.mem_singleton] at early
        rw [early]
        exact ⟨empty, solid⟩
    · exact ih word late

/-- What is in the words is what does not separate them. -/
theorem mem_words_iff {element : α} (text : List α) :
    (∃ word ∈ words blank text, element ∈ word) ↔ element ∈ text ∧ blank element = false := by
  have whole : ∀ part : List α, Solid blank part →
      ((∃ word ∈ words blank part, element ∈ word) ↔ element ∈ part ∧ blank element = false) := by
    intro part solid
    by_cases empty : part = []
    · simp [empty]
    · rw [words_solid solid empty]
      simp only [List.mem_singleton, exists_eq_left]
      exact ⟨fun member => ⟨member, solid element member⟩, fun both => both.1⟩
  apply @solid_induction α blank _ whole _ text
  intro first separator rest solid separates ih
  have early := whole first solid
  simp only [words_append_cons separates, List.mem_append, List.mem_cons, or_and_right,
    exists_or, early, ih]
  constructor
  · rintro (inside | inside)
    · exact Or.inl inside
    · exact Or.inr (Or.inr inside)
  · rintro (inside | ⟨same, plain⟩ | inside)
    · exact Or.inl inside
    · rw [same, separates] at plain
      cases plain
    · exact Or.inr inside

theorem words_eq_nil_iff (text : List α) :
    words blank text = [] ↔ ∀ element ∈ text, blank element = true := by
  constructor
  · intro none element member
    by_contra solid
    rw [Bool.not_eq_true] at solid
    obtain ⟨word, present, -⟩ := (mem_words_iff text).mpr ⟨member, solid⟩
    rw [none] at present
    cases present
  · intro blanks
    rw [← List.append_nil text, words_leading blanks, words_nil]

/-- A test that separating elements fail finds what it finds in the words. -/
theorem any_words {test : α → Bool} (fails : ∀ element, blank element = true → test element = false)
    (text : List α) : (words blank text).any (fun word => word.any test) = text.any test := by
  rw [Bool.eq_iff_iff]
  simp only [List.any_eq_true]
  constructor
  · rintro ⟨word, present, element, inside, passes⟩
    exact ⟨element, ((mem_words_iff text).mp ⟨word, present, inside⟩).1, passes⟩
  · rintro ⟨element, member, passes⟩
    have solid : blank element = false := by
      by_contra separates
      rw [Bool.not_eq_false] at separates
      rw [fails element separates] at passes
      cases passes
    obtain ⟨word, present, inside⟩ := (mem_words_iff text).mpr ⟨member, solid⟩
    exact ⟨word, present, element, inside, passes⟩

section Strip

theorem strip_parts (text : List α) : ∃ front back,
    (∀ element ∈ front, blank element = true) ∧ (∀ element ∈ back, blank element = true) ∧
    text = front ++ (strip blank text ++ back) := by
  refine ⟨text.takeWhile blank, (text.dropWhile blank).rtakeWhile blank, ?_, ?_, ?_⟩
  · exact fun element member => List.mem_takeWhile_imp member
  · exact fun element member => List.mem_rtakeWhile_imp member
  · rw [strip, List.rdropWhile_append_rtakeWhile, List.takeWhile_append_dropWhile]

@[simp] theorem words_strip (text : List α) :
    words blank (strip blank text) = words blank text := by
  obtain ⟨front, back, leading, trailing, whole⟩ := @strip_parts α blank text
  have same := congrArg (words blank) whole
  rw [words_leading leading, words_trailing trailing] at same
  exact same.symm

theorem strip_starts {text rest : List α} {element : α}
    (starts : strip blank text = element :: rest) : blank element = false := by
  obtain ⟨later, whole⟩ := List.rdropWhile_prefix blank (text.dropWhile blank)
  have front : text.dropWhile blank = element :: (rest ++ later) := by
    rw [← whole]
    exact congrArg (fun kept => kept ++ later) starts
  have some : text.dropWhile blank ≠ [] := by
    rw [front]
    exact List.cons_ne_nil _ _
  have head := List.head_dropWhile_not blank some
  simpa [front] using head

theorem strip_ends {text start : List α} {element : α}
    (ends : strip blank text = start ++ [element]) : blank element = false := by
  have some : strip blank text ≠ [] := by
    rw [ends]
    exact List.append_ne_nil_of_right_ne_nil start (List.cons_ne_nil element [])
  have last := List.rdropWhile_last_not blank (text.dropWhile blank) some
  rw [Bool.not_eq_true] at last
  have element_last : (strip blank text).getLast some = element := by
    simp only [ends, List.getLast_append_singleton]
  rw [← element_last]
  exact last

theorem strip_eq_nil_iff (text : List α) : strip blank text = [] ↔ words blank text = [] := by
  rw [← words_strip]
  constructor
  · intro empty
    rw [empty, words_nil]
  · intro none
    have blanks := (words_eq_nil_iff _).mp none
    rcases List.eq_nil_or_concat (strip blank text) with empty | ⟨start, element, ends⟩
    · exact empty
    · rw [List.concat_eq_append] at ends
      have last := blanks element (by rw [ends]; simp)
      rw [strip_ends ends] at last
      cases last

/-- Nothing is taken off a list that neither starts nor ends with a separating element. -/
theorem strip_eq_self {text : List α}
    (starts : ∀ element rest, text = element :: rest → blank element = false)
    (ends : ∀ element start, text = start ++ [element] → blank element = false) :
    strip blank text = text := by
  have front : text.dropWhile blank = text := by
    cases text with
    | nil => rfl
    | cons element rest =>
        apply List.dropWhile_cons_of_neg
        rw [starts element rest rfl]
        decide
  rw [strip, front, List.rdropWhile_eq_self_iff]
  intro present separates
  have last := ends (text.getLast present) text.dropLast (List.dropLast_append_getLast present).symm
  rw [separates] at last
  cases last

theorem strip_solid {text : List α} (solid : Solid blank text) : strip blank text = text := by
  apply strip_eq_self
  · intro element rest same
    exact solid element (by rw [same]; exact List.mem_cons_self)
  · intro element start same
    exact solid element (by rw [same]; simp)

/-- A stripped list with a separating element has a word on each side of it. -/
theorem words_of_blank {text : List α} {separator : α} (member : separator ∈ strip blank text)
    (separates : blank separator = true) : 2 ≤ (words blank text).length := by
  obtain ⟨first, rest, whole⟩ := List.append_of_mem member
  have front : words blank first ≠ [] := by
    intro none
    have blanks := (words_eq_nil_iff first).mp none
    cases first with
    | nil =>
        rw [strip_starts whole] at separates
        cases separates
    | cons element later =>
        have head := blanks element List.mem_cons_self
        rw [strip_starts whole] at head
        cases head
  have back : words blank rest ≠ [] := by
    intro none
    have blanks := (words_eq_nil_iff rest).mp none
    rcases List.eq_nil_or_concat rest with empty | ⟨start, element, ends⟩
    · rw [empty] at whole
      rw [strip_ends whole] at separates
      cases separates
    · rw [List.concat_eq_append] at ends
      have last := blanks element (by rw [ends]; simp)
      have tail : strip blank text = (first ++ separator :: start) ++ [element] := by
        rw [whole, ends]
        simp
      rw [strip_ends tail] at last
      cases last
  rw [← words_strip, whole, words_append_cons separates, List.length_append]
  have one := List.length_pos_of_ne_nil front
  have two := List.length_pos_of_ne_nil back
  omega

/-- A list of one word is that word between separating elements. -/
theorem strip_of_words_single {text word : List α} (one : words blank text = [word]) :
    strip blank text = word ∧ Solid blank word := by
  have solid : Solid blank (strip blank text) := by
    intro element member
    by_contra separates
    have two := words_of_blank member (Bool.not_eq_false _ ▸ separates)
    rw [one] at two
    simp at two
  have present : strip blank text ≠ [] := by
    intro empty
    rw [(strip_eq_nil_iff text).mp empty] at one
    cases one
  have whole := words_solid solid present
  rw [words_strip, one] at whole
  cases whole
  exact ⟨rfl, solid⟩

/-- Two words have a separating element between them. -/
theorem blank_of_words {text first second : List α} {rest : List (List α)}
    (parts : words blank text = first :: second :: rest) :
    ∃ separator ∈ strip blank text, blank separator = true := by
  by_contra none
  have solid : Solid blank (strip blank text) := by
    intro element member
    rw [← Bool.not_eq_true]
    exact fun separates => none ⟨element, member, separates⟩
  have present : strip blank text ≠ [] := by
    intro empty
    rw [(strip_eq_nil_iff text).mp empty] at parts
    cases parts
  have one := words_solid solid present
  rw [words_strip, parts] at one
  simp at one

end Strip

section Joined

variable {separator : α}

theorem words_joined (separates : blank separator = true) {parts : List (List α)}
    (each : ∀ part ∈ parts, part ≠ [] ∧ Solid blank part) :
    words blank ([separator].intercalate parts) = parts := by
  induction parts with
  | nil => rfl
  | cons part rest ih =>
      obtain ⟨present, solid⟩ := each part List.mem_cons_self
      have later := ih (fun other member => each other (List.mem_cons_of_mem part member))
      cases rest with
      | nil => rw [List.intercalate_singleton, words_solid solid present]
      | cons second rest =>
          rw [List.intercalate_cons_cons, List.append_assoc, List.singleton_append,
            words_append_cons separates, words_solid solid present, later]
          rfl

theorem mem_joined {element : α} {parts : List (List α)}
    (member : element ∈ [separator].intercalate parts) :
    element = separator ∨ ∃ part ∈ parts, element ∈ part := by
  induction parts with
  | nil => cases member
  | cons part rest ih =>
      cases rest with
      | nil =>
          rw [List.intercalate_singleton] at member
          exact Or.inr ⟨part, List.mem_cons_self, member⟩
      | cons second rest =>
          rw [List.intercalate_cons_cons] at member
          simp only [List.mem_append, List.mem_singleton] at member
          rcases member with (inside | same) | later
          · exact Or.inr ⟨part, List.mem_cons_self, inside⟩
          · exact Or.inl same
          · rcases ih later with same | ⟨other, present, inside⟩
            · exact Or.inl same
            · exact Or.inr ⟨other, List.mem_cons_of_mem part present, inside⟩

theorem joined_starts (part : List α) (rest : List (List α)) :
    ∃ later, [separator].intercalate (part :: rest) = part ++ later := by
  cases rest with
  | nil => exact ⟨[], by simp⟩
  | cons second rest =>
      rw [List.intercalate_cons_cons, List.append_assoc]
      exact ⟨_, rfl⟩

theorem joined_ends {parts : List (List α)} (present : parts ≠ []) :
    ∃ start, ∃ part ∈ parts, [separator].intercalate parts = start ++ part := by
  induction parts with
  | nil => exact absurd rfl present
  | cons part rest ih =>
      cases rest with
      | nil => exact ⟨[], part, List.mem_cons_self, by simp⟩
      | cons second rest =>
          obtain ⟨start, last, member, whole⟩ := ih (List.cons_ne_nil second rest)
          refine ⟨part ++ [separator] ++ start, last, List.mem_cons_of_mem part member, ?_⟩
          rw [List.intercalate_cons_cons, whole, List.append_assoc (part ++ [separator])]

/-- Joined words start and end with one of them. -/
theorem strip_joined {parts : List (List α)}
    (each : ∀ part ∈ parts, part ≠ [] ∧ Solid blank part) :
    strip blank ([separator].intercalate parts) = [separator].intercalate parts := by
  apply strip_eq_self
  · intro element rest same
    cases parts with
    | nil => cases same
    | cons part later =>
        obtain ⟨present, solid⟩ := each part List.mem_cons_self
        obtain ⟨head, tail, whole⟩ := List.exists_cons_of_ne_nil present
        obtain ⟨after, joined⟩ := joined_starts  part later
        rw [joined, whole] at same
        rw [← List.head_eq_of_cons_eq same]
        exact solid head (by rw [whole]; exact List.mem_cons_self)
  · intro element start same
    by_cases none : parts = []
    · rw [none] at same
      simp at same
    · obtain ⟨before, part, member, joined⟩ := joined_ends  none
      obtain ⟨present, solid⟩ := each part member
      have last : part.getLast present = element := by
        have whole := congrArg List.getLast? (joined.symm.trans same)
        rw [List.getLast?_append_of_ne_nil before present, List.getLast?_concat,
          List.getLast?_eq_some_getLast present, Option.some.injEq] at whole
        exact whole
      rw [← last]
      exact solid _ (List.getLast_mem present)

end Joined

section Split

variable {β : Type} [DecidableEq β] {separator : β}

/-- The parts before and after the last separator. -/
def rsplitOnce (separator : β) : List β → Option (List β × List β)
  | [] => none
  | first :: rest =>
      match rsplitOnce separator rest with
      | some (before, after) => some (first :: before, after)
      | none => if first = separator then some ([], rest) else none

theorem rsplitOnce_none {text : List β} (absent : separator ∉ text) :
    rsplitOnce separator text = none := by
  induction text with
  | nil => rfl
  | cons first rest ih =>
      rw [List.mem_cons, not_or] at absent
      simp only [rsplitOnce, ih absent.2, Ne.symm absent.1, ↓reduceIte]

theorem rsplitOnce_append (before : List β) {after : List β} (last : separator ∉ after) :
    rsplitOnce separator (before ++ separator :: after) = some (before, after) := by
  induction before with
  | nil => simp only [List.nil_append, rsplitOnce, rsplitOnce_none last, ↓reduceIte]
  | cons first rest ih => simp only [List.cons_append, rsplitOnce, ih]

end Split

section Parts

theorem strip_leading {run : List α} (blanks : ∀ element ∈ run, blank element = true)
    (text : List α) : strip blank (run ++ text) = strip blank text := by
  rw [strip, List.dropWhile_append_of_pos blanks]
  rfl

theorem strip_trailing {run : List α} (blanks : ∀ element ∈ run, blank element = true)
    (text : List α) : strip blank (text ++ run) = strip blank text := by
  have ends : ∀ start : List α, (start ++ run).rdropWhile blank = start.rdropWhile blank := by
    intro start
    rw [List.rdropWhile, List.reverse_append,
      List.dropWhile_append_of_pos fun element member => blanks element (List.mem_reverse.mp member)]
    rfl
  rw [strip, List.dropWhile_append]
  split
  · rename_i empty
    rw [strip, List.isEmpty_iff.mp empty]
    exact (congrArg (List.rdropWhile blank) (List.dropWhile_eq_nil_iff.mpr blanks))
  · exact ends _

variable [BEq α] [LawfulBEq α] {separator : α}

theorem solid_iff_absent {text : List α} :
    Solid (fun element => element == separator) text ↔ separator ∉ text := by
  constructor
  · intro solid member
    simpa using solid separator member
  · intro absent element member
    exact beq_eq_false_iff_ne.mpr fun same => absent (same ▸ member)

/-- The parts of a stripped list are those of the list, up to what is stripped off them. -/
theorem parts_strip (solid : blank separator = false) (text : List α) :
    ((strip blank text).splitOn separator).map (strip blank) =
      (text.splitOn separator).map (strip blank) := by
  have clear : ∀ run : List α, (∀ element ∈ run, blank element = true) → separator ∉ run := by
    intro run blanks member
    rw [blanks separator member] at solid
    cases solid
  have leading : ∀ run middle : List α, (∀ element ∈ run, blank element = true) →
      ((run ++ middle).splitOn separator).map (strip blank) =
        (middle.splitOn separator).map (strip blank) := by
    intro run middle blanks
    induction middle using @solid_induction α (fun element => element == separator) with
    | solid part whole =>
        have absent := solid_iff_absent.mp whole
        rw [List.splitOn_eq_singleton absent, List.splitOn_eq_singleton
          (by simp [absent, clear run blanks]), List.map_singleton, List.map_singleton,
          strip_leading blanks]
    | split first found rest whole separates ih =>
        have absent := solid_iff_absent.mp whole
        rw [← List.append_assoc, eq_of_beq separates, List.splitOn_append_cons_self_of_not_mem
          (by simp [absent, clear run blanks]), List.splitOn_append_cons_self_of_not_mem absent,
          List.map_cons, List.map_cons, strip_leading blanks]
  have trailing : ∀ run middle : List α, (∀ element ∈ run, blank element = true) →
      ((middle ++ run).splitOn separator).map (strip blank) =
        (middle.splitOn separator).map (strip blank) := by
    intro run middle blanks
    induction middle using @solid_induction α (fun element => element == separator) with
    | solid part whole =>
        have absent := solid_iff_absent.mp whole
        rw [List.splitOn_eq_singleton absent, List.splitOn_eq_singleton
          (by simp [absent, clear run blanks]), List.map_singleton, List.map_singleton,
          strip_trailing blanks]
    | split first found rest whole separates ih =>
        have absent := solid_iff_absent.mp whole
        rw [List.append_assoc, List.cons_append, eq_of_beq separates,
          List.splitOn_append_cons_self_of_not_mem absent,
          List.splitOn_append_cons_self_of_not_mem absent, List.map_cons, List.map_cons, ih]
  obtain ⟨front, back, before, after, whole⟩ := @strip_parts α blank text
  calc ((strip blank text).splitOn separator).map (strip blank)
      = ((strip blank text ++ back).splitOn separator).map (strip blank) :=
        (trailing back _ after).symm
    _ = ((front ++ (strip blank text ++ back)).splitOn separator).map (strip blank) :=
        (leading front _ before).symm
    _ = (text.splitOn separator).map (strip blank) := by rw [← whole]

end Parts

end Words
