import Reckoner.Expr.Render
import Reckoner.Proofs.Parser.Shape

/-! # From a tree to its flat text and back

The flat text of a tree is its written form without parentheses and blanks. A well-shaped tree has
the flat text of a sentence, and that sentence means the tree (`Expr.WellShaped.exists_sentence`):
a negation adds a sign to an operand, a product adds an operand to the last group, and a sum adds a
group. Since a text is read in one way only, two well-shaped trees with one flat text are the same.
-/

namespace Reckoner

namespace Expr

/-- A text without its parentheses and blanks. -/
def flatten (text : String) : String :=
  String.ofList (text.toList.filter fun c => c ≠ '(' ∧ c ≠ ')' ∧ c ≠ ' ')

/-- The written form of a tree without parentheses and blanks. -/
def flat (tree : Expr) : Except RenderError String := tree.render.map flatten

variable {operand left right : Expr} {token : Option Token} {a b : String}

theorem flatten_append (a b : String) : flatten (a ++ b) = flatten a ++ flatten b := by
  rw [flatten, String.toList_append, List.filter_append, String.ofList_append]
  rfl

theorem flatten_text (operator : Operator) : flatten operator.text = operator.text := by
  cases operator <;> rfl

theorem flatten_digits {digits : List Char} (decimal : digits.all Decimal.isDigit = true) :
    flatten (String.ofList digits) = String.ofList digits := by
  rw [flatten, String.toList_ofList, List.filter_eq_self.mpr]
  intro c member
  have digit : Decimal.isDigit c = true := List.all_eq_true.mp decimal c member
  rw [decide_eq_true_eq]
  exact ⟨Decimal.ne_of_isDigit digit rfl, Decimal.ne_of_isDigit digit rfl,
    Decimal.ne_of_isDigit digit rfl⟩

theorem flat_eq_ok_iff {tree : Expr} {text : String} :
    tree.flat = .ok text ↔ ∃ written, tree.render = .ok written ∧ flatten written = text := by
  rw [flat]
  cases tree.render with
  | error failure => simp [Except.map]
  | ok written => simp [Except.map]

theorem flat_bare (tree : Expr) : tree.bare.flat = tree.flat := by
  rw [flat, flat, render_bare]

theorem flat_integer {value : Int} (nonnegative : 0 ≤ value) :
    (integer value token).flat = .ok (String.ofList (Decimal.writeBlocks value.natAbs)) := by
  refine flat_eq_ok_iff.mpr ⟨Decimal.write value, render_integer value, ?_⟩
  rw [← flatten_digits (Decimal.all_isDigit_writeBlocks value.natAbs),
    ← Decimal.toList_write_of_nonneg nonnegative, String.ofList_toList]

theorem flat_unary {operator : String} (inner : operand.flat = .ok a) :
    (unary operator operand token).flat = .ok (flatten operator ++ a) := by
  obtain ⟨written, rendered, rfl⟩ := flat_eq_ok_iff.mp inner
  refine flat_eq_ok_iff.mpr ⟨"(" ++ operator ++ written ++ ")", ?_, ?_⟩
  · rw [render_unary, rendered]
    rfl
  · have opening : flatten "(" = "" := rfl
    have closing : flatten ")" = "" := rfl
    simp only [flatten_append, opening, closing, String.empty_append, String.append_empty]

theorem flat_binary {operator : String} (flatLeft : left.flat = .ok a) (flatRight : right.flat = .ok b) :
    (binary left operator right token).flat = .ok (a ++ flatten operator ++ b) := by
  obtain ⟨writtenLeft, renderedLeft, rfl⟩ := flat_eq_ok_iff.mp flatLeft
  obtain ⟨writtenRight, renderedRight, rfl⟩ := flat_eq_ok_iff.mp flatRight
  refine flat_eq_ok_iff.mpr ⟨"(" ++ writtenLeft ++ " " ++ operator ++ " " ++ writtenRight ++ ")", ?_, ?_⟩
  · rw [render_binary, renderedLeft, renderedRight]
    rfl
  · have opening : flatten "(" = "" := rfl
    have closing : flatten ")" = "" := rfl
    have blank : flatten " " = "" := rfl
    simp only [flatten_append, opening, closing, blank, String.empty_append, String.append_empty]

end Expr

namespace Operand

/-- A number without signs. -/
def ofNat (number : Nat) : Operand :=
  ⟨0, Decimal.writeBlocks number, Decimal.writeBlocks_ne_nil number, Decimal.all_isDigit_writeBlocks number⟩

/-- One more sign in front. -/
def negate (operand : Operand) : Operand := { operand with signs := operand.signs + 1 }

theorem tree_ofNat (number : Nat) : (ofNat number).tree = .integer number none := by
  have magnitude : (ofNat number).magnitude = number := Decimal.ofDigitChars_writeBlocks number
  rw [tree, magnitude]
  rfl

theorem tree_negate (operand : Operand) : operand.negate.tree = .unary "-" operand.tree none :=
  Function.iterate_succ_apply' ..

end Operand

namespace Sentence

variable {sentence left right : Sentence} {operator : Operator}

/-- There is only one group. -/
def AllTight (sentence : Sentence) : Prop := ∀ item ∈ sentence.rest, item.1.isTight = true

private theorem AllTight.map (tight : sentence.AllTight) :
    ∀ item ∈ (Series.map id Operand.tree sentence).rest, item.1.isTight = true :=
  List.forall_mem_map.mpr tight

theorem source_append (left : Sentence) (operator : Operator) (right : Sentence) :
    source (left.append operator right) = left.source ++ operator.text ++ right.source := by
  have spelled : text (left.append operator right) = left.text ++ ([operator.char] ++ right.text) := by
    simp [text, Series.append, spell]
  have sign : String.ofList [operator.char] = operator.text :=
    String.singleton_eq_ofList.symm
  rw [source, spelled, String.ofList_append, String.ofList_append, sign, ← String.append_assoc]
  rfl

theorem source_negate (operand : Operand) :
    source ⟨operand.negate, []⟩ = "-" ++ source ⟨operand, []⟩ := by
  have spelled : text ⟨operand.negate, []⟩ = ['-'] ++ text ⟨operand, []⟩ := rfl
  rw [source, spelled, String.ofList_append]
  rfl

theorem tree_append_loose (loose : operator.isTight = false) (tightRight : right.AllTight) :
    tree (left.append operator right) = .binary left.tree operator.text right.tree none := by
  rw [tree, Series.map_append]
  exact Series.foldGroups_append_loose loose tightRight.map

theorem tree_append_tight (tight : operator.isTight = true) (tightLeft : left.AllTight)
    (single : right.rest = []) :
    tree (left.append operator right) = .binary left.tree operator.text right.tree none := by
  rw [tree, Series.map_append]
  refine Series.foldGroups_append_tight tight tightLeft.map ?_
  rw [Series.map, single, List.map_nil]

/-- A text is read in one way only. The parser shows it: with as many levels as the text has
characters it reads either sentence, however many signs they have. -/
theorem tree_eq_of_text_eq (same : left.text = right.text) : left.tree = right.tree := by
  have enough {sentence : Sentence} (operand : Operand) (member : operand ∈ sentence.operands) :
      operand.signs ≤ sentence.text.length := by
    have signs : List.replicate operand.signs '-' <:+: sentence.text :=
      (List.prefix_append ..).isInfix.trans (Sentence.operand_infix member)
    simpa using signs.length_le
  have read {sentence : Sentence} {depth : Nat} (room : sentence.text.length ≤ depth) :
      (Parser.nested (depth + 3) Precedence.lowest.level
        (Parser.onto ⟨"", 0, sentence.text ++ []⟩ [])).1 = .ok (sentence.treeAt 0) := by
    have roomSigns (operand : Operand) (member : operand ∈ sentence.operands) : operand.signs ≤ depth :=
      Nat.le_trans (enough operand member) room
    obtain ⟨last, outcome⟩ :=
      @Parser.nested_sentence [] "" 0 depth [] sentence endsDigits_nil roomSigns
    rw [outcome, Parser.resume_stop _ endsDigits_nil (by simp), close_climbAt]
  have readLeft := read (Nat.le_refl left.text.length)
  rw [same, read (Nat.le_refl _)] at readLeft
  rw [← bare_treeAt left 0, ← bare_treeAt right 0, Except.ok.inj readLeft]

end Sentence

namespace Expr

/-- The sentence means the tree and has its flat text. -/
structure SpelledBy (tree : Expr) (sentence : Sentence) : Prop where
  tree_eq : sentence.tree = tree.bare
  flat_eq : tree.flat = .ok sentence.source
  /-- Only a sum has several groups. -/
  tight : ¬ tree.IsSum → sentence.AllTight
  /-- Only an operator has several operands. -/
  single : tree.operator? = none → sentence.rest = []

namespace SpelledBy

variable {operand left right : Expr} {sentence first second : Sentence} {operator : Operator}
variable {token : Option Token}

theorem integer {value : Int} (nonnegative : 0 ≤ value) :
    SpelledBy (.integer value token) ⟨Operand.ofNat value.natAbs, []⟩ := by
  constructor
  · have number : (value.natAbs : Int) = value := Int.natAbs_of_nonneg nonnegative
    refine (Operand.tree_ofNat value.natAbs).trans ?_
    rw [number]
    rfl
  · rw [flat_integer nonnegative, Sentence.source, Sentence.text, spell_nil, List.append_nil]
    rfl
  · intro _
    exact List.forall_mem_nil _
  · intro _
    rfl

theorem negation (spelled : operand.SpelledBy sentence) (single : operand.operator? = none) :
    SpelledBy (.unary "-" operand token) ⟨sentence.first.negate, []⟩ := by
  obtain ⟨first, rest⟩ := sentence
  obtain rfl : rest = [] := spelled.single single
  constructor
  · have inner : first.tree = operand.bare := spelled.tree_eq
    refine (Operand.tree_negate first).trans ?_
    rw [inner]
    rfl
  · rw [flat_unary spelled.flat_eq]
    exact congrArg Except.ok (Sentence.source_negate first).symm
  · intro _
    exact List.forall_mem_nil _
  · intro _
    rfl

private theorem flat_append (spelledLeft : left.SpelledBy first) (spelledRight : right.SpelledBy second) :
    (binary left operator.text right token).flat =
      .ok (Sentence.source (first.append operator second)) := by
  rw [flat_binary spelledLeft.flat_eq spelledRight.flat_eq, flatten_text, Sentence.source_append]

theorem sum (loose : operator.isTight = false) (spelledLeft : left.SpelledBy first)
    (spelledRight : right.SpelledBy second) (group : ¬ right.IsSum) :
    SpelledBy (.binary left operator.text right token) (first.append operator second) := by
  constructor
  · rw [Sentence.tree_append_loose loose (spelledRight.tight group), spelledLeft.tree_eq,
      spelledRight.tree_eq]
    rfl
  · exact flat_append spelledLeft spelledRight
  · intro product
    exact absurd (isSum_iff.mpr ⟨operator, loose, rfl⟩) product
  · intro none
    cases none

theorem product (tight : operator.isTight = true) (spelledLeft : left.SpelledBy first)
    (spelledRight : right.SpelledBy second) (group : ¬ left.IsSum) (single : right.operator? = none) :
    SpelledBy (.binary left operator.text right token) (first.append operator second) := by
  have tightLeft := spelledLeft.tight group
  have single := spelledRight.single single
  constructor
  · rw [Sentence.tree_append_tight tight tightLeft single, spelledLeft.tree_eq, spelledRight.tree_eq]
    rfl
  · exact flat_append spelledLeft spelledRight
  · intro _ item member
    rw [Series.append, single] at member
    rcases List.mem_append.mp member with before | last
    · exact tightLeft item before
    · obtain rfl := List.mem_singleton.mp last
      exact tight
  · intro none
    cases none

end SpelledBy

variable {tree other : Expr}

theorem WellShaped.exists_sentence (shaped : tree.WellShaped) :
    ∃ sentence : Sentence, tree.SpelledBy sentence := by
  induction shaped with
  | integer nonnegative => exact ⟨_, .integer nonnegative⟩
  | negation inner single ih =>
    obtain ⟨sentence, spelled⟩ := ih
    exact ⟨_, spelled.negation single⟩
  | sum loose shapedLeft shapedRight group ihLeft ihRight =>
    obtain ⟨first, spelledLeft⟩ := ihLeft
    obtain ⟨second, spelledRight⟩ := ihRight
    exact ⟨_, .sum loose spelledLeft spelledRight group⟩
  | product tight shapedLeft shapedRight group single ihLeft ihRight =>
    obtain ⟨first, spelledLeft⟩ := ihLeft
    obtain ⟨second, spelledRight⟩ := ihRight
    exact ⟨_, .product tight spelledLeft spelledRight group single⟩

theorem flat_eq_of_sameTree (same : tree.sameTree other = true) : tree.flat = other.flat := by
  rw [← flat_bare tree, of_decide_eq_true same, flat_bare]

/-- Among well-shaped trees the flat text tells the tree. -/
theorem WellShaped.sameTree_of_flat_eq (shaped : tree.WellShaped) (shapedOther : other.WellShaped)
    (same : tree.flat = other.flat) : tree.sameTree other = true := by
  obtain ⟨first, spelled⟩ := shaped.exists_sentence
  obtain ⟨second, spelledOther⟩ := shapedOther.exists_sentence
  rw [spelled.flat_eq, spelledOther.flat_eq] at same
  have text : first.text = second.text := String.ofList_injective (Except.ok.inj same)
  have bare : tree.bare = other.bare := by
    rw [← spelled.tree_eq, ← spelledOther.tree_eq, Sentence.tree_eq_of_text_eq text]
  exact decide_eq_true bare

theorem operator?_bare (tree : Expr) : tree.bare.operator? = tree.operator? := by
  cases tree <;> rfl

theorem operator?_eq_of_bare_eq (same : tree.bare = other.bare) : tree.operator? = other.operator? := by
  rw [← operator?_bare tree, same, operator?_bare]

/-- The tokens have no part in the shape. -/
theorem WellShaped.of_bare_eq (shaped : tree.WellShaped) (same : tree.bare = other.bare) :
    other.WellShaped := by
  induction shaped generalizing other with
  | integer nonnegative =>
    cases other with
    | integer value token =>
      cases same
      exact .integer nonnegative
    | unary | binary | hole => cases same
  | negation inner single ih =>
    cases other with
    | unary operator operand token =>
      obtain ⟨rfl, sameInner, _⟩ := unary.inj same
      exact .negation (ih sameInner) (operator?_eq_of_bare_eq sameInner ▸ single)
    | integer | binary | hole => cases same
  | sum loose shapedLeft shapedRight group ihLeft ihRight =>
    cases other with
    | binary left operator right token =>
      obtain ⟨sameLeft, rfl, sameRight, _⟩ := binary.inj same
      refine .sum loose (ihLeft sameLeft) (ihRight sameRight) ?_
      rwa [IsSum, ← operator?_eq_of_bare_eq sameRight]
    | integer | unary | hole => cases same
  | product tight shapedLeft shapedRight group single ihLeft ihRight =>
    cases other with
    | binary left operator right token =>
      obtain ⟨sameLeft, rfl, sameRight, _⟩ := binary.inj same
      refine .product tight (ihLeft sameLeft) (ihRight sameRight) ?_ ?_
      · rwa [IsSum, ← operator?_eq_of_bare_eq sameLeft]
      · rwa [← operator?_eq_of_bare_eq sameRight]
    | integer | unary | hole => cases same

end Expr

/-- The flat text of a well-shaped tree is read as that tree. -/
theorem parse_flat {tree : Expr} {text : String} (shaped : tree.WellShaped)
    (flat : tree.flat = .ok text) (runs : MinusRunsAtMost 201 text.toList) :
    ∃ read, parse text = .ok read ∧ read.sameTree tree = true := by
  obtain ⟨sentence, spelled⟩ := shaped.exists_sentence
  rw [spelled.flat_eq] at flat
  obtain rfl := Except.ok.inj flat
  rw [Sentence.source, String.toList_ofList] at runs
  refine ⟨sentence.treeAt 0, parse_eq_treeAt sentence runs, ?_⟩
  apply decide_eq_true
  rw [Sentence.bare_treeAt, spelled.tree_eq]

/-- Whatever is read is well shaped, and a well-shaped tree is read from its flat text unless it has
too many signs in a row. Among the trees without so many signs, then, exactly the well-shaped ones are
read. No two well-shaped trees have one flat text. -/
theorem parse_wellShaped :
    (∀ source tree, parse source = .ok tree → tree.WellShaped) ∧
      (∀ tree : Expr, tree.WellShaped → ∃ text, tree.flat = .ok text ∧
        (MinusRunsAtMost 201 text.toList →
          ∃ read, parse text = .ok read ∧ read.sameTree tree = true)) ∧
      (∀ (tree : Expr) (text : String), tree.flat = .ok text → MinusRunsAtMost 201 text.toList →
        ((∃ source read, parse source = .ok read ∧ read.sameTree tree = true) ↔ tree.WellShaped)) ∧
      ∀ tree other : Expr, tree.WellShaped → other.WellShaped →
        (tree.flat = other.flat ↔ tree.sameTree other = true) := by
  refine ⟨?_, ?_, ?_, ?_⟩
  · intro source tree accepted
    exact wellShaped_of_parse accepted
  · intro tree shaped
    obtain ⟨sentence, spelled⟩ := shaped.exists_sentence
    exact ⟨_, spelled.flat_eq, parse_flat shaped spelled.flat_eq⟩
  · intro tree text flat runs
    constructor
    · rintro ⟨source, read, accepted, same⟩
      exact (wellShaped_of_parse accepted).of_bare_eq (of_decide_eq_true same)
    · intro shaped
      exact ⟨text, parse_flat shaped flat runs⟩
  · intro tree other shaped shapedOther
    exact ⟨shaped.sameTree_of_flat_eq shapedOther, Expr.flat_eq_of_sameTree⟩

theorem parse_wellShaped_difference :
    let factor : Expr := .unary "-" (.unary "-" (.integer 3 none) none) none
    let tree : Expr := .binary (.integer 7 none) "-" (.binary factor "*" (.integer 2 none) none) none
    tree.WellShaped ∧ tree.flat = .ok "7---3*2" ∧ MinusRunsAtMost 201 "7---3*2".toList ∧
      ∃ read, parse "7---3*2" = .ok read ∧ read.WellShaped ∧ read.sameTree tree = true ∧
        read.flat = .ok "7---3*2" := by
  intro factor tree
  have shapedFactor : factor.WellShaped := .negation (.negation (.integer (by decide)) rfl) rfl
  have shapedProduct : (Expr.binary factor "*" (.integer 2 none) none).WellShaped :=
    @Expr.WellShaped.product _ _ .times _ rfl shapedFactor (.integer (by decide)) (by decide) rfl
  have shaped : tree.WellShaped :=
    @Expr.WellShaped.sum _ _ .minus _ rfl (.integer (by decide)) shapedProduct (by decide)
  have numeral (number : Nat) :
      (Expr.integer number none).flat = .ok (String.ofList (Nat.toDigits 10 number)) := by
    rw [Expr.flat_integer (Int.natCast_nonneg number), Decimal.writeBlocks_eq_toDigits]
    rfl
  have flatFactor : factor.flat = .ok "--3" := Expr.flat_unary (Expr.flat_unary (numeral 3))
  have flat : tree.flat = .ok "7---3*2" :=
    Expr.flat_binary (numeral 7) (Expr.flat_binary flatFactor (numeral 2))
  have runs : MinusRunsAtMost 201 "7---3*2".toList := by decide +kernel
  obtain ⟨sound, complete, exactly, told⟩ := parse_wellShaped
  obtain ⟨_, text, back⟩ := complete tree shaped
  rw [flat] at text
  obtain rfl := Except.ok.inj text
  obtain ⟨read, accepted, same⟩ := back runs
  have shapedRead := sound _ read accepted
  refine ⟨(exactly tree _ flat runs).mp ⟨_, read, accepted, same⟩, flat, runs, read, accepted,
    shapedRead, same, ?_⟩
  exact ((told read tree shapedRead shaped).mpr same).trans flat

end Reckoner
