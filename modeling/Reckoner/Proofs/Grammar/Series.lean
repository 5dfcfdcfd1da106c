/-! # Folding a series of operands at two levels

A series is an operand followed by further operands, each behind an operator. Operators are of two
strengths: the operands that tight operators join form groups, and the groups are joined by the
loose operators between them. `foldGroups` folds each group from the left and then the groups from
the left.

The same fold can be made in one pass that never looks ahead. A `Climb` is what such a pass knows
between two operands: the group folded so far and, behind it, the groups that are complete together
with the loose operator that waits for the current one. `close_climb` shows that the pass ends at
`foldGroups`.
-/

namespace Reckoner

/-- An operand, and further operands each behind an operator. -/
structure Series (ω α : Type) where
  first : α
  rest : List (ω × α)
deriving DecidableEq, Repr

namespace Series

variable {ω ω' α β : Type}

/-- Joins all operands from the left. -/
def fold (join : ω → α → α → α) (series : Series ω α) : α :=
  series.rest.foldl (fun left item => join item.1 left item.2) series.first

/-- Cuts the operands behind the first one before each loose operator: those that still belong to
the group of the first operand, and the groups after it. -/
def cut (tight : ω → Bool) : List (ω × α) → List (ω × α) × List (ω × Series ω α)
  | [] => ([], [])
  | (operator, operand) :: rest =>
    let (lead, later) := cut tight rest
    if tight operator then ((operator, operand) :: lead, later)
    else ([], (operator, ⟨operand, lead⟩) :: later)

/-- The maximal groups of operands joined by tight operators, each but the first behind its loose
operator. -/
def groups (tight : ω → Bool) (series : Series ω α) : Series ω (Series ω α) :=
  let (lead, later) := cut tight series.rest
  ⟨⟨series.first, lead⟩, later⟩

def map (operators : ω → ω') (operands : α → β) (series : Series ω α) : Series ω' β :=
  ⟨operands series.first, series.rest.map (Prod.map operators operands)⟩

theorem map_map {ω'' γ : Type} (operators : ω → ω') (operands : α → β) (operators' : ω' → ω'')
    (operands' : β → γ) (series : Series ω α) :
    (series.map operators operands).map operators' operands' =
      series.map (operators' ∘ operators) (operands' ∘ operands) := by
  simp only [map, List.map_map, Prod.map_comp_map, Function.comp_apply]

/-- Two series with an operator between them. -/
def append (left : Series ω α) (operator : ω) (right : Series ω α) : Series ω α :=
  ⟨left.first, left.rest ++ (operator, right.first) :: right.rest⟩

theorem map_append (operators : ω → ω') (operands : α → β) (left : Series ω α) (operator : ω)
    (right : Series ω α) :
    (left.append operator right).map operators operands =
      (left.map operators operands).append (operators operator) (right.map operators operands) := by
  simp only [append, map, List.map_append, List.map_cons, Prod.map]

/-- Folds each group from the left, then the groups from the left. -/
def foldGroups (tight : ω → Bool) (join : ω → α → α → α) (series : Series ω α) : α :=
  ((series.groups tight).map id (fold join)).fold join

/-- Writing the groups out one after the other gives the series back. -/
theorem cut_flatten (tight : ω → Bool) (rest : List (ω × α)) :
    (cut tight rest).1 ++ (cut tight rest).2.flatMap
      (fun group => (group.1, group.2.first) :: group.2.rest) = rest := by
  induction rest with
  | nil => rfl
  | cons item rest ih =>
    obtain ⟨operator, operand⟩ := item
    simp only [cut]
    split
    · simpa using ih
    · simpa using ih

/-- Inside a group all operators are tight, and between two groups they are loose. -/
theorem cut_maximal (tight : ω → Bool) (rest : List (ω × α)) :
    (∀ item ∈ (cut tight rest).1, tight item.1 = true) ∧
      ∀ group ∈ (cut tight rest).2, tight group.1 = false ∧
        ∀ item ∈ group.2.rest, tight item.1 = true := by
  induction rest with
  | nil => simp [cut]
  | cons item rest ih =>
    obtain ⟨operator, operand⟩ := item
    obtain ⟨inside, between⟩ := ih
    simp only [cut]
    split
    · next tightOperator =>
      refine ⟨?_, between⟩
      intro other member
      rcases List.mem_cons.mp member with rfl | member
      · exact tightOperator
      · exact inside other member
    · next looseOperator =>
      refine ⟨by simp, ?_⟩
      intro group member
      rcases List.mem_cons.mp member with rfl | member
      · exact ⟨Bool.eq_false_iff.mpr looseOperator, inside⟩
      · exact between group member

end Series

/-- A series folded up to some operand: the group of that operand, and the complete groups that wait
for it behind a loose operator, if there are any. -/
structure Climb (ω α : Type) where
  waiting : Option (α × ω)
  group : α

namespace Climb

variable {ω ω' α β : Type}

/-- The climb at the first operand of a series. -/
def start (first : α) : Climb ω α := ⟨none, first⟩

/-- The value if the series ended here. -/
def close (join : ω → α → α → α) : Climb ω α → α
  | ⟨none, group⟩ => group
  | ⟨some (groups, operator), group⟩ => join operator groups group

/-- A tight operator extends the group; a loose one completes it and begins another. -/
def step (tight : ω → Bool) (join : ω → α → α → α) (climb : Climb ω α) (item : ω × α) : Climb ω α :=
  if tight item.1 then { climb with group := join item.1 climb.group item.2 }
  else ⟨some (climb.close join, item.1), item.2⟩

def run (tight : ω → Bool) (join : ω → α → α → α) : Climb ω α → List (ω × α) → Climb ω α :=
  List.foldl (step tight join)

theorem run_cons (tight : ω → Bool) (join : ω → α → α → α) (climb : Climb ω α) (item : ω × α)
    (rest : List (ω × α)) :
    climb.run tight join (item :: rest) = (climb.step tight join item).run tight join rest := rfl

/-- The invariant of the pass: what is still to come first completes the group and then joins the
later groups to what waits. -/
private theorem close_run (tight : ω → Bool) (join : ω → α → α → α) (climb : Climb ω α)
    (rest : List (ω × α)) :
    (climb.run tight join rest).close join =
      Series.fold join
        ⟨close join { climb with group := Series.fold join ⟨climb.group, (Series.cut tight rest).1⟩ },
          (Series.cut tight rest).2.map (Prod.map id (Series.fold join))⟩ := by
  induction rest generalizing climb with
  | nil => rfl
  | cons item rest ih =>
    obtain ⟨operator, operand⟩ := item
    rw [run_cons, ih]
    simp only [step, Series.cut]
    split
    · simp only [Series.fold, List.foldl_cons]
    · simp only [Series.fold, close, List.map_cons, List.foldl_cons, List.foldl_nil, Prod.map, id]

theorem close_climb (tight : ω → Bool) (join : ω → α → α → α) (series : Series ω α) :
    ((start series.first).run tight join series.rest).close join = series.foldGroups tight join := by
  rw [close_run]
  rfl

def map (operators : ω → ω') (operands : α → β) (climb : Climb ω α) : Climb ω' β :=
  ⟨climb.waiting.map (Prod.map operands operators), operands climb.group⟩

section Map

variable {tight : ω → Bool} {tight' : ω' → Bool} {join : ω → α → α → α} {join' : ω' → β → β → β}
variable {operators : ω → ω'} {operands : α → β}
variable (sameStrength : ∀ operator, tight' (operators operator) = tight operator)
variable (sameJoin : ∀ operator left right,
  operands (join operator left right) = join' (operators operator) (operands left) (operands right))

include sameJoin

theorem close_map (climb : Climb ω α) :
    (climb.map operators operands).close join' = operands (climb.close join) := by
  obtain ⟨_ | ⟨groups, operator⟩, group⟩ := climb
  · rfl
  · exact (sameJoin operator groups group).symm

include sameStrength

theorem step_map (climb : Climb ω α) (item : ω × α) :
    (climb.map operators operands).step tight' join' (Prod.map operators operands item) =
      (climb.step tight join item).map operators operands := by
  simp only [step, Prod.map, sameStrength]
  split
  · simp only [map, sameJoin]
  · rw [close_map sameJoin]
    rfl

theorem run_map (climb : Climb ω α) (rest : List (ω × α)) :
    (climb.map operators operands).run tight' join' (rest.map (Prod.map operators operands)) =
      (climb.run tight join rest).map operators operands := by
  induction rest generalizing climb with
  | nil => rfl
  | cons item rest ih =>
    rw [List.map_cons, run_cons, run_cons, step_map sameStrength sameJoin, ih]

end Map

end Climb

section Append

variable {ω α : Type} {tight : ω → Bool} {join : ω → α → α → α} {operator : ω}
variable {series left right : Series ω α}

/-- Tight operators let nothing but the group grow. -/
theorem Climb.run_of_tight {climb : Climb ω α} {rest : List (ω × α)}
    (tightRest : ∀ item ∈ rest, tight item.1 = true) :
    climb.run tight join rest = { climb with group := Series.fold join ⟨climb.group, rest⟩ } := by
  induction rest generalizing climb with
  | nil => rfl
  | cons item rest ih =>
    have tightItem : tight item.1 = true := tightRest item (List.mem_cons_self ..)
    rw [run_cons, ih fun other member => tightRest other (List.mem_cons_of_mem _ member), step,
      if_pos tightItem]
    rfl

namespace Series

/-- A series without loose operators is one group. -/
theorem foldGroups_of_tight (tightRest : ∀ item ∈ series.rest, tight item.1 = true) :
    series.foldGroups tight join = series.fold join := by
  rw [← Climb.close_climb, Climb.run_of_tight tightRest]
  rfl

private theorem foldGroups_append (left : Series ω α) (operator : ω) (right : Series ω α) :
    (left.append operator right).foldGroups tight join =
      Climb.close join ((((Climb.start left.first).run tight join left.rest).step tight join
        (operator, right.first)).run tight join right.rest) := by
  rw [← Climb.close_climb]
  exact congrArg (Climb.close join) List.foldl_append

/-- A last group behind a loose operator is joined to all that is before it. -/
theorem foldGroups_append_loose (loose : tight operator = false)
    (tightRight : ∀ item ∈ right.rest, tight item.1 = true) :
    (left.append operator right).foldGroups tight join =
      join operator (left.foldGroups tight join) (right.foldGroups tight join) := by
  rw [foldGroups_append, Climb.step, if_neg (Bool.eq_false_iff.mp loose),
    Climb.run_of_tight tightRight, Climb.close_climb, foldGroups_of_tight tightRight]
  rfl

/-- A last operand behind a tight operator is joined to a group. -/
theorem foldGroups_append_tight (tightOperator : tight operator = true)
    (tightLeft : ∀ item ∈ left.rest, tight item.1 = true) (single : right.rest = []) :
    (left.append operator right).foldGroups tight join =
      join operator (left.foldGroups tight join) (right.foldGroups tight join) := by
  obtain ⟨operand, rest⟩ := right
  subst single
  rw [foldGroups_append, Climb.run_of_tight tightLeft, Climb.step, if_pos tightOperator,
    foldGroups_of_tight tightLeft]
  rfl

end Series

end Append

/-- A change of operators and operands that respects strengths and joins can be made before or after
folding. -/
theorem Series.foldGroups_map {ω ω' α β : Type} {tight : ω → Bool} {tight' : ω' → Bool}
    {join : ω → α → α → α} {join' : ω' → β → β → β} {operators : ω → ω'} {operands : α → β}
    (sameStrength : ∀ operator, tight' (operators operator) = tight operator)
    (sameJoin : ∀ operator left right, operands (join operator left right) =
      join' (operators operator) (operands left) (operands right))
    (series : Series ω α) :
    (series.map operators operands).foldGroups tight' join' =
      operands (series.foldGroups tight join) := by
  rw [← Climb.close_climb, ← Climb.close_climb, ← Climb.close_map sameJoin,
    ← Climb.run_map sameStrength sameJoin]
  rfl

end Reckoner
