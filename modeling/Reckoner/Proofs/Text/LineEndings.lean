import Mathlib.Data.List.Basic
import Reckoner.Text.Line

/-! # Line endings of a file

Unifying the newlines of a text turns each of the three line endings into a line feed and leaves no
carriage return. So of the two characters that `dropLineEnding` may drop, only the line feed is ever
there. A text gives one line exactly if it is that line with at most one line ending behind it,
whichever of the three (`dropLineEnding_unifyNewlines_eq_iff`).
-/

namespace Reckoner.Text

/-- No line ending, or one of the three. -/
def lineEndings : List (List Char) := [[], ['\n'], ['\r', '\n'], ['\r']]

variable {c : Char} {line rest tail text ending : List Char}

theorem unifyNewlines_cons (other : c ≠ '\r') : unifyNewlines (c :: rest) = c :: unifyNewlines rest := by
  rw [unifyNewlines] <;> simp [other]

/-- A carriage return counts by itself unless a line feed follows it. -/
theorem unifyNewlines_return_cons (alone : ∀ tail, rest ≠ '\n' :: tail) :
    unifyNewlines ('\r' :: rest) = '\n' :: unifyNewlines rest := by
  rw [unifyNewlines]
  exact alone

theorem return_not_mem_unifyNewlines (text : List Char) : '\r' ∉ unifyNewlines text := by
  have feed {rest : List Char} (others : '\r' ∉ rest) : '\r' ∉ '\n' :: rest :=
    List.not_mem_cons_of_ne_of_not_mem (by decide) others
  fun_induction unifyNewlines text with
  | case1 => exact List.not_mem_nil
  | case2 rest ih => exact feed ih
  | case3 rest alone ih => exact feed ih
  | case4 c rest pair other ih => exact List.not_mem_cons_of_ne_of_not_mem (Ne.symm other) ih

theorem unifyNewlines_of_no_return (plain : '\r' ∉ text) : unifyNewlines text = text := by
  induction text with
  | nil => rfl
  | cons c rest ih =>
    obtain ⟨first, others⟩ := List.ne_and_not_mem_of_not_mem_cons plain
    rw [unifyNewlines_cons first.symm, ih others]

/-- Behind any other character, newlines are unified as if the text began there. -/
theorem unifyNewlines_append_cons (notFeed : c ≠ '\n') (notReturn : c ≠ '\r') (text rest : List Char) :
    unifyNewlines (text ++ c :: rest) = unifyNewlines text ++ c :: unifyNewlines rest := by
  fun_induction unifyNewlines text with
  | case1 => exact unifyNewlines_cons notReturn
  | case2 more ih => rw [List.cons_append, List.cons_append, unifyNewlines, ih, List.cons_append]
  | case3 more alone ih =>
    have further : ∀ tail, more ++ c :: rest ≠ '\n' :: tail := by
      intro tail same
      cases more with
      | nil => exact notFeed (List.cons.inj same).1
      | cons d more => exact alone more (congrArg (· :: more) (List.cons.inj same).1)
    rw [List.cons_append, unifyNewlines_return_cons further, ih, List.cons_append]
  | case4 d more pair other ih => rw [List.cons_append, unifyNewlines_cons other, ih, List.cons_append]

/-- Only a line feed comes from more than itself. -/
theorem exists_cons_of_unifyNewlines (other : c ≠ '\n') (unified : unifyNewlines text = c :: tail) :
    ∃ rest, text = c :: rest ∧ unifyNewlines rest = tail := by
  rw [unifyNewlines.eq_def] at unified
  split at unified
  · cases unified
  · exact absurd (List.cons.inj unified).1.symm other
  · exact absurd (List.cons.inj unified).1.symm other
  · next d rest pair notReturn =>
    obtain ⟨rfl, same⟩ := List.cons.inj unified
    exact ⟨rest, rfl, same⟩

/-- What begins with a line after the newlines are unified began with it before. -/
theorem exists_append_of_unifyNewlines (plain : '\n' ∉ line) (unified : unifyNewlines text = line ++ tail) :
    ∃ rest, text = line ++ rest ∧ unifyNewlines rest = tail := by
  induction line generalizing text with
  | nil => exact ⟨text, rfl, unified⟩
  | cons c line ih =>
    obtain ⟨first, others⟩ := List.ne_and_not_mem_of_not_mem_cons plain
    obtain ⟨more, rfl, later⟩ := exists_cons_of_unifyNewlines first.symm unified
    obtain ⟨rest, rfl, same⟩ := ih others later
    exact ⟨rest, rfl, same⟩

theorem unifyNewlines_eq_nil_iff : unifyNewlines text = [] ↔ text = [] := by
  fun_cases unifyNewlines text <;> simp

/-- The texts that are unified to nothing or to one line feed. -/
theorem mem_lineEndings_iff :
    ending ∈ lineEndings ↔ unifyNewlines ending = [] ∨ unifyNewlines ending = ['\n'] := by
  constructor
  · intro member
    simp only [lineEndings, List.mem_cons, List.not_mem_nil, or_false] at member
    rcases member with rfl | rfl | rfl | rfl
    · exact .inl rfl
    · exact .inr rfl
    · exact .inr rfl
    · exact .inr rfl
  · rintro (nothing | feed)
    · rw [unifyNewlines_eq_nil_iff.mp nothing]
      exact List.mem_cons_self
    · rw [unifyNewlines.eq_def] at feed
      split at feed
      · cases feed
      all_goals
        obtain ⟨first, rest⟩ := List.cons.inj feed
        obtain rfl := unifyNewlines_eq_nil_iff.mp rest
        simp [lineEndings, first]

theorem dropFinal_concat (c : Char) (text : List Char) : dropFinal c (text ++ [c]) = text := by
  rw [dropFinal, if_pos List.getLast?_concat, List.dropLast_concat]

theorem dropFinal_of_ne (other : text.getLast? ≠ some c) : dropFinal c text = text := if_neg other

theorem eq_dropFinal_or (c : Char) (text : List Char) :
    text = dropFinal c text ∨ text = dropFinal c text ++ [c] := by
  by_cases last : text.getLast? = some c
  · rw [dropFinal, if_pos last]
    exact .inr (List.dropLast_append_getLast? c last).symm
  · exact .inl (dropFinal_of_ne last).symm

/-- No carriage return is left that could be dropped. -/
theorem dropLineEnding_unifyNewlines (text : List Char) :
    dropLineEnding (unifyNewlines text) = dropFinal '\n' (unifyNewlines text) := by
  have noReturn : (unifyNewlines text).dropLast.getLast? ≠ some '\r' := by
    intro last
    exact return_not_mem_unifyNewlines text (List.dropLast_subset _ (List.mem_of_getLast? last))
  rw [dropLineEnding, dropFinal_of_ne noReturn]
  rfl

/-- One line ending behind a text is dropped, whichever it is, if the text does not end a line
itself. -/
theorem dropLineEnding_unifyNewlines_append (notFeed : line.getLast? ≠ some '\n')
    (notReturn : line.getLast? ≠ some '\r') (member : ending ∈ lineEndings) :
    dropLineEnding (unifyNewlines (line ++ ending)) = unifyNewlines line := by
  have dropped {kept : List Char} (unended : kept.getLast? ≠ some '\n') :
      dropFinal '\n' (kept ++ unifyNewlines ending) = kept := by
    rcases mem_lineEndings_iff.mp member with nothing | feed
    · rw [nothing, List.append_nil, dropFinal_of_ne unended]
    · rw [feed, dropFinal_concat]
  rw [dropLineEnding_unifyNewlines]
  rcases List.eq_nil_or_concat' line with rfl | ⟨line, c, rfl⟩
  · exact dropped notFeed
  · rw [List.getLast?_concat, Ne, Option.some.injEq] at notFeed notReturn
    have unified (rest : List Char) := unifyNewlines_append_cons notFeed notReturn line rest
    rw [List.append_assoc, List.singleton_append, unified, unified, List.append_cons]
    exact dropped (by simpa using notFeed)

/-- A text gives a line exactly if it is that line with at most one line ending behind it. -/
theorem dropLineEnding_unifyNewlines_eq_iff (noFeed : '\n' ∉ line) (noReturn : '\r' ∉ line) :
    dropLineEnding (unifyNewlines text) = line ↔ ∃ ending ∈ lineEndings, text = line ++ ending := by
  constructor
  · intro dropped
    rw [dropLineEnding_unifyNewlines] at dropped
    obtain ⟨tail, unified, short⟩ : ∃ tail, unifyNewlines text = line ++ tail ∧ (tail = [] ∨ tail = ['\n']) := by
      rcases eq_dropFinal_or '\n' (unifyNewlines text) with whole | ended
      · rw [dropped] at whole
        exact ⟨[], by rw [whole, List.append_nil], .inl rfl⟩
      · rw [dropped] at ended
        exact ⟨['\n'], ended, .inr rfl⟩
    obtain ⟨ending, rfl, rfl⟩ := exists_append_of_unifyNewlines noFeed unified
    exact ⟨ending, mem_lineEndings_iff.mpr short, rfl⟩
  · rintro ⟨ending, member, rfl⟩
    have last {c : Char} (other : c ∉ line) : line.getLast? ≠ some c :=
      mt List.mem_of_getLast? other
    rw [dropLineEnding_unifyNewlines_append (last noFeed) (last noReturn) member,
      unifyNewlines_of_no_return noReturn]

/-- A run of one character, other than the line feed, is as long as before. -/
theorem replicate_infix_of_unifyNewlines (other : c ≠ '\n') {count : Nat}
    (inside : List.replicate count c <:+: unifyNewlines text) : List.replicate count c <:+: text := by
  have plain : '\n' ∉ List.replicate count c := fun member => other (List.eq_of_mem_replicate member).symm
  have begins {text : List Char} (first : List.replicate count c <+: unifyNewlines text) :
      List.replicate count c <:+: text := by
    obtain ⟨tail, unified⟩ := first
    obtain ⟨rest, rfl, _⟩ := exists_append_of_unifyNewlines plain unified.symm
    exact (List.prefix_append _ rest).isInfix
  fun_induction unifyNewlines text with
  | case1 => exact inside
  | case2 rest ih =>
    rcases List.infix_cons_iff.mp inside with first | later
    · exact begins (by rwa [unifyNewlines])
    · exact (ih later).trans (List.suffix_append ['\r', '\n'] rest).isInfix
  | case3 rest alone ih =>
    rcases List.infix_cons_iff.mp inside with first | later
    · exact begins (by rwa [unifyNewlines_return_cons alone])
    · exact (ih later).trans (List.suffix_cons _ rest).isInfix
  | case4 d rest pair notReturn ih =>
    rcases List.infix_cons_iff.mp inside with first | later
    · exact begins (by rwa [unifyNewlines_cons notReturn])
    · exact (ih later).trans (List.suffix_cons d rest).isInfix

/-- What is dropped at the end shortens no run. -/
theorem replicate_infix_of_dropLineEnding (other : c ≠ '\n') {count : Nat}
    (inside : List.replicate count c <:+: dropLineEnding (unifyNewlines text)) :
    List.replicate count c <:+: text := by
  apply replicate_infix_of_unifyNewlines other
  refine inside.trans ?_
  rw [dropLineEnding_unifyNewlines, dropFinal]
  split
  · exact (List.dropLast_prefix _).isInfix
  · exact List.infix_refl _

end Reckoner.Text
