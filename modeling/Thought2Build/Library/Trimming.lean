import Mathlib.Data.List.DropRight
import Mathlib.Data.List.Infix

/-! A text without the letters of a kind at both of its ends. -/

namespace Trimming

variable {α : Type*} {meets : α → Bool} {text front back : List α} {letter : α}

def trim (meets : α → Bool) (text : List α) : List α := (text.dropWhile meets).rdropWhile meets

/-- Letters of another kind stand at both ends, if there are any. -/
structure Trimmed (meets : α → Bool) (text : List α) : Prop where
  first : text.head?.all (!meets ·) = true
  last : text.getLast?.all (!meets ·) = true

theorem rdropWhile_of_last (last : text.getLast?.all (!meets ·) = true) : text.rdropWhile meets = text := by
  rw [List.rdropWhile_eq_self_iff]
  intro filled good
  rw [List.getLast?_eq_some_getLast filled, Option.all_some, good] at last
  contradiction

theorem dropWhile_of_first (first : text.head?.all (!meets ·) = true) : text.dropWhile meets = text := by
  cases text with
  | nil => rfl
  | cons letter rest => exact List.dropWhile_cons_of_neg (by simpa using first)

theorem Trimmed.trim_eq (trimmed : Trimmed meets text) : trim meets text = text := by
  rw [trim, dropWhile_of_first trimmed.first, rdropWhile_of_last trimmed.last]

theorem Trimmed.of_all (all : ∀ letter ∈ text, meets letter = false) : Trimmed meets text := by
  constructor
  · cases found : text.head? with
    | none => rfl
    | some letter => simp [all letter (List.mem_of_head? found)]
  · cases found : text.getLast? with
    | none => rfl
    | some letter => simp [all letter (List.mem_of_getLast? found)]

theorem Trimmed.append (early : Trimmed meets front) (late : Trimmed meets back) : Trimmed meets (front ++ back) := by
  constructor
  · cases front with
    | nil => exact late.first
    | cons letter front => exact early.first
  · cases back using List.reverseRecOn with
    | nil =>
        rw [List.append_nil]
        exact early.last
    | append_singleton back letter =>
        have last := late.last
        rw [List.getLast?_concat] at last
        rwa [← List.append_assoc, List.getLast?_concat]

theorem head_dropWhile (meets : α → Bool) (text : List α) : (text.dropWhile meets).head?.all (!meets ·) = true := by
  have first := List.head?_dropWhile_not meets text
  cases found : (text.dropWhile meets).head? with
  | none => rfl
  | some letter => simpa [found] using first

theorem last_rdropWhile (meets : α → Bool) (text : List α) :
    (text.rdropWhile meets).getLast?.all (!meets ·) = true := by
  rw [List.rdropWhile, List.getLast?_reverse]
  exact head_dropWhile meets text.reverse

theorem trimmed_trim (meets : α → Bool) (text : List α) : Trimmed meets (trim meets text) := by
  refine ⟨?_, last_rdropWhile meets _⟩
  have first := head_dropWhile meets text
  obtain ⟨behind, whole⟩ := List.rdropWhile_prefix meets (text.dropWhile meets)
  cases found : trim meets text with
  | nil => rfl
  | cons letter rest =>
      rw [trim] at found
      rw [← whole, found] at first
      exact first

theorem trim_within (meets : α → Bool) (text : List α) : trim meets text <:+: text :=
  (List.rdropWhile_prefix meets _).isInfix.trans (List.dropWhile_suffix meets).isInfix

theorem head_trim (stays : meets letter = false) (rest : List α) : (trim meets (letter :: rest)).head? = some letter := by
  rw [trim, List.dropWhile_cons_of_neg (Bool.eq_false_iff.mp stays)]
  obtain ⟨behind, whole⟩ := List.rdropWhile_prefix meets (letter :: rest)
  cases found : (letter :: rest).rdropWhile meets with
  | nil =>
      have good := List.rdropWhile_eq_nil_iff.mp found letter List.mem_cons_self
      rw [stays] at good
      cases good
  | cons first more =>
      rw [found, List.cons_append] at whole
      rw [List.head?_cons, (List.cons.inj whole).1]

theorem trim_append_left (all : ∀ letter ∈ front, meets letter = true) : trim meets (front ++ text) = trim meets text := by
  rw [trim, List.dropWhile_append_of_pos all, trim]

theorem rdropWhile_append_right (all : ∀ letter ∈ back, meets letter = true) :
    (text ++ back).rdropWhile meets = text.rdropWhile meets := by
  have reversed : ∀ letter ∈ back.reverse, meets letter = true := fun letter member =>
    all letter (List.mem_reverse.mp member)
  rw [List.rdropWhile, List.reverse_append, List.dropWhile_append_of_pos reversed, List.rdropWhile]

theorem rdropWhile_around (stays : meets letter = false) :
    (front ++ letter :: back).rdropWhile meets = front ++ letter :: back.rdropWhile meets := by
  induction back using List.reverseRecOn with
  | nil => exact List.rdropWhile_concat_neg _ _ _ (by simp [stays])
  | append_singleton back last ih =>
      rw [← List.cons_append, ← List.append_assoc, List.rdropWhile_concat, List.rdropWhile_concat, ih]
      split
      · rfl
      · rw [List.append_assoc, List.cons_append]

theorem dropWhile_around (stays : meets letter = false) :
    (front ++ letter :: back).dropWhile meets = front.dropWhile meets ++ letter :: back := by
  rw [List.dropWhile_append]
  split
  · rename_i empty
    rw [List.isEmpty_iff.mp empty, List.dropWhile_cons_of_neg (by simp [stays]), List.nil_append]
  · rfl

theorem trim_around (stays : meets letter = false) :
    trim meets (front ++ letter :: back) = front.dropWhile meets ++ letter :: back.rdropWhile meets := by
  rw [trim, dropWhile_around stays, rdropWhile_around stays]

theorem rdropWhile_append_left (all : ∀ letter ∈ front, meets letter = false) (back : List α) :
    (front ++ back).rdropWhile meets = front ++ back.rdropWhile meets := by
  cases front using List.reverseRecOn with
  | nil => rfl
  | append_singleton front letter =>
      have stays := all letter (List.mem_append_right _ (List.mem_singleton_self _))
      rw [List.append_assoc, List.append_assoc]
      exact rdropWhile_around stays

theorem trim_append_right (all : ∀ letter ∈ back, meets letter = true) : trim meets (text ++ back) = trim meets text := by
  rw [trim, List.dropWhile_append]
  split
  · rename_i empty
    rw [trim, List.isEmpty_iff.mp empty, List.dropWhile_eq_nil_iff.mpr all, List.rdropWhile_nil]
  · rw [rdropWhile_append_right all, trim]

theorem trim_split (meets : α → Bool) (text : List α) : ∃ front back, text = front ++ trim meets text ++ back ∧
    (∀ letter ∈ front, meets letter = true) ∧ ∀ letter ∈ back, meets letter = true := by
  refine ⟨text.takeWhile meets, (text.dropWhile meets).rtakeWhile meets, ?_, fun _ => List.mem_takeWhile_imp,
    fun _ => List.mem_rtakeWhile_imp⟩
  rw [trim, List.append_assoc, List.rdropWhile_append_rtakeWhile, List.takeWhile_append_dropWhile]

/-! Letters that are replaced -/

section

variable {β : Type*} {meets' : β → Bool}

theorem trim_map {replace : α → β} (same : ∀ letter, meets' (replace letter) = meets letter) (text : List α) :
    trim meets' (text.map replace) = (trim meets text).map replace := by
  have kind : meets' ∘ replace = meets := funext same
  rw [trim, List.dropWhile_map, kind, List.rdropWhile, ← List.map_reverse, List.dropWhile_map, kind, ← List.map_reverse,
    trim, List.rdropWhile]

/-- Each letter is replaced by some letters, all of its own kind. -/
structure KeepsKind (meets : α → Bool) (meets' : β → Bool) (replace : α → List β) : Prop where
  filled : ∀ letter, replace letter ≠ []
  same : ∀ letter, ∀ other ∈ replace letter, meets' other = meets letter

variable {replace : α → List β}

theorem KeepsKind.trimmed_flatMap (keeps : KeepsKind meets meets' replace) (text : List α) :
    Trimmed meets' (text.flatMap replace) ↔ Trimmed meets text := by
  have first : (text.flatMap replace).head?.all (!meets' ·) = text.head?.all (!meets ·) := by
    cases text with
    | nil => rfl
    | cons letter rest =>
        obtain ⟨other, others, own⟩ := List.exists_cons_of_ne_nil (keeps.filled letter)
        have kind := keeps.same letter other (by rw [own]; exact List.mem_cons_self)
        rw [List.flatMap_cons, own, List.cons_append, List.head?_cons, List.head?_cons, Option.all_some, Option.all_some,
          kind]
  have last : (text.flatMap replace).getLast?.all (!meets' ·) = text.getLast?.all (!meets ·) := by
    cases text using List.reverseRecOn with
    | nil => rfl
    | append_singleton rest letter =>
        obtain ⟨others, other, own⟩ := List.eq_nil_or_concat' (replace letter) |>.resolve_left (keeps.filled letter)
        have kind := keeps.same letter other (by rw [own]; exact List.mem_append_right _ (List.mem_singleton_self _))
        rw [List.flatMap_append, List.flatMap_singleton, own, ← List.append_assoc, List.getLast?_concat,
          List.getLast?_concat, Option.all_some, Option.all_some, kind]
  exact ⟨fun trimmed => ⟨first ▸ trimmed.first, last ▸ trimmed.last⟩,
    fun trimmed => ⟨first.trans trimmed.first, last.trans trimmed.last⟩⟩

theorem KeepsKind.trim_flatMap (keeps : KeepsKind meets meets' replace) (text : List α) :
    trim meets' (text.flatMap replace) = (trim meets text).flatMap replace := by
  obtain ⟨front, back, whole, early, late⟩ := trim_split meets text
  have all {letters : List α} (kind : ∀ letter ∈ letters, meets letter = true) :
      ∀ other ∈ letters.flatMap replace, meets' other = true := by
    intro other member
    obtain ⟨letter, among, inside⟩ := List.mem_flatMap.mp member
    rw [keeps.same letter other inside, kind letter among]
  conv_lhs => rw [whole]
  rw [List.flatMap_append, List.flatMap_append, trim_append_right (all late), trim_append_left (all early),
    ((keeps.trimmed_flatMap _).mpr (trimmed_trim meets text)).trim_eq]

end

end Trimming
