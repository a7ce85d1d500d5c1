import NumberingPlan.Pattern.Compile

/-! An engine to run patterns with. Its table of properties is short and its size check an estimate;
what is stated of patterns in general holds of any engine. -/
namespace NumberingPlan.Pattern

namespace CharSet

/-- The name of a property without regard to case, spaces, underscores, hyphens and a leading
`is`. -/
def looseName (name : List Char) : List Char :=
  let rest := match name with
    | a :: b :: r => if a.toLower = 'i' && b.toLower = 's' then r else name
    | _ => name
  (rest.filter fun c => c.toNat < 0x80 && c ≠ ' ' && c ≠ '_' && c ≠ '-').map Char.toLower

/-- Some names of properties. Others, for which there may well be a set, are not known here. -/
def ofPropertyName? (name : List Char) : Option CharSet :=
  match String.ofList (looseName name) with
  | "l" | "letter" => some (property .letter)
  | "n" | "number" => some (property .number)
  | "nd" | "decimalnumber" | "digit" => some (property .decimal)
  | "greek" | "grek" => some (property .greek)
  | _ => .none

/-- An estimate in round numbers, not a compiler's own count: a range is charged with the bytes of
its last character, a property with an amount that grows with the number of its ranges. -/
def cost : CharSet → Nat
  | none => 1
  | range _ hi => hi.utf8Size
  | property .letter => 1200
  | property .number => 350
  | property .decimal => 180
  | property .greek => 60
  | property .word => 1400
  | property .blank => 20
  | compl s => s.cost + 8
  | union s t => s.cost + t.cost
  | inter s t => s.cost + t.cost
  | diff s t => s.cost + t.cost
  | symmDiff s t => s.cost + t.cost
  | folded s => 2 * s.cost
  | asciiFolded s => s.cost

end CharSet

namespace Tree

/-- Matches the empty text only, if anything. -/
def zeroWidth : Tree Atom → Bool
  | empty => true
  | atom (.one _) => false
  | atom (.look _) => true
  | cat s t => s.zeroWidth && t.zeroWidth
  | alt s t => s.zeroWidth && t.zeroWidth
  | rep t lo more => (lo == 0 && more == some 0) || t.zeroWidth

/-- An estimate of the steps a pattern is compiled to. Bounded repetition writes its operand out copy
by copy, but an operand of no width only once. -/
def cost : Tree Atom → Nat
  | empty => 1
  | atom (.one s) => s.cost
  | atom (.look _) => 1
  | cat s t => s.cost + t.cost
  | alt s t => s.cost + t.cost + 1
  | rep t lo more =>
    if t.zeroWidth then t.cost + 1
    else match more with
      | some more => lo * t.cost + more * (t.cost + 1) + 1
      | none => max lo 1 * t.cost + 1

end Tree

/-- Ten mebibytes, at 32 bytes a step. -/
def costLimit : Nat := 10 * 1024 * 1024 / 32

theorem Level.cost_branch_le (l : Level) (k : Look) :
    l.branch.tree.cost ≤ (l.push (.look k)).branch.tree.cost := by
  refine List.foldl_rel (r := fun s t : Tree Atom => s.cost ≤ t.cost) (by simp [Tree.cost]) ?_
  intro p _ s t h
  exact Nat.add_le_add_left h _

theorem Level.cost_close_le (l : Level) (k : Look) :
    l.close.tree.cost ≤ (l.push (.look k)).close.tree.cost := by
  refine List.foldl_rel (r := fun s t : Tree Atom => s.cost ≤ t.cost) (l.cost_branch_le k) ?_
  intro p _ s t h
  exact Nat.add_le_add_right (Nat.add_le_add_left h _) _

theorem cost_le_of_dollar [PropertyTable] {text : List Char} {p q : Part}
    (hq : parse? text = some q) (hp : parse? (text ++ ['$']) = some p) : q.tree.cost ≤ p.tree.cost := by
  obtain ⟨r, hr, hfinish⟩ := Option.bind_eq_some_iff.1 hq
  obtain ⟨ho, hb, hm, rfl⟩ := Reader.finish?_eq_some.1 hfinish
  rw [parse?, Reader.feed_append, hr, Option.bind_some, Reader.feed_singleton] at hp
  cases hc : r.comment with
  | true =>
    have hsame : r.step '$' = some r := by simp [Reader.step, hc]
    rw [hsame, Option.bind_some, hfinish] at hp
    cases hp
    exact Nat.le_refl _
  | false =>
    rw [Reader.step_of_final hb hm hc (.inr rfl)] at hp
    obtain ⟨-, -, -, rfl⟩ := Reader.finish?_eq_some.1 hp
    exact r.level.cost_close_le _

def seemsToFit [PropertyTable] (text : List Char) : Bool :=
  (text.length ≤ 16 && !text.contains '{') || (parse? text).all fun p => p.tree.cost ≤ costLimit

theorem seemsToFit_of_dollar [PropertyTable] {text : List Char} (hq : WellFormed text)
    (hp : WellFormed (text ++ ['$'])) (h : seemsToFit (text ++ ['$']) = true) :
    seemsToFit text = true := by
  obtain ⟨q, hq, -⟩ := hq
  obtain ⟨p, hp, -⟩ := hp
  simp only [seemsToFit, hq, hp, Option.all_some, Bool.or_eq_true, Bool.and_eq_true,
    decide_eq_true_eq, List.length_append, List.length_singleton] at h ⊢
  rcases h with ⟨hlength, hbrace⟩ | hcost
  · refine .inl ⟨by omega, ?_⟩
    simp only [List.contains_append, Bool.not_or, Bool.and_eq_true] at hbrace
    exact hbrace.1
  · exact .inr (Nat.le_trans (cost_le_of_dollar hq hp) hcost)

@[reducible] def standardTable : PropertyTable where
  find? name := (CharSet.ofPropertyName? name).map (false, ·)
  find?_close := by decide
  find?_dollar := by decide

instance standardEngine : Engine where
  toPropertyTable := standardTable
  fits := @seemsToFit standardTable
  fits_short := by
    intro text hlength hbrace
    simp [seemsToFit, hlength, hbrace]
  fits_of_dollar := @seemsToFit_of_dollar standardTable

end NumberingPlan.Pattern
