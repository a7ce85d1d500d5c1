import NumberingPlan.Pattern.Reader

/-! Reading inside a group. A reader only ever works on the innermost level; the levels around it
wait untouched until a closing parenthesis asks for one of them. So a text that can be read on its
own is read the same way behind any open groups. Main statement: `feed_within`. -/
namespace NumberingPlan.Pattern.Reader

/-- The same reader inside further open groups. -/
def within (ls : List Level) (r : Reader) : Reader := { r with outer := r.outer ++ ls }

variable {ls : List Level} {r r' : Reader}

@[simp] theorem within_level : (r.within ls).level = r.level := rfl

@[simp] theorem within_flags : (r.within ls).flags = r.flags := rfl

@[simp] theorem within_brackets : (r.within ls).brackets = r.brackets := rfl

@[simp] theorem within_names : (r.within ls).names = r.names := rfl

@[simp] theorem within_mode : (r.within ls).mode = r.mode := rfl

@[simp] theorem within_comment : (r.within ls).comment = r.comment := rfl

@[simp] theorem enter_within (m : Mode) : (r.within ls).enter m = (r.enter m).within ls := rfl

@[simp] theorem push_within (p : Part) : (r.within ls).push p = (r.push p).within ls := rfl

@[simp] theorem openGroup_within (f : Flags) :
    (r.within ls).openGroup f = (r.openGroup f).within ls := rfl

@[simp] theorem record_within (c : Char) : (r.within ls).record c = (r.record c).within ls := by
  simp only [record, within_brackets]
  split <;> rfl

theorem repeatLast?_within (lo : Nat) (more : Option Nat) (m : Mode) :
    (r.within ls).repeatLast? lo more m = (r.repeatLast? lo more m).map (within ls) := by
  simp only [repeatLast?, within_level, Option.map_map]
  rfl

theorem openCount?_within : (r.within ls).openCount? = r.openCount?.map (within ls) := by
  simp only [openCount?, within_level]
  split
  · split <;> rfl
  · rfl

theorem onCount_within (k : Count) (c : Char) :
    (r.within ls).onCount k c = (r.onCount k c).map (within ls) := by
  simp only [onCount, repeatLast?_within]
  split
  · cases k.close? <;> rfl
  · cases k.step c <;> rfl

theorem onDirective_within (d : Directive) (c : Char) :
    (r.within ls).onDirective d c = (r.onDirective d c).map (within ls) := by
  simp only [onDirective, within_flags]
  split
  · split
    · rfl
    · cases d.resolve? r.flags <;> rfl
  split
  · cases d.resolve? r.flags <;> rfl
  · cases d.step c <;> rfl

theorem onExtension_within (c : Char) :
    (r.within ls).onExtension c = (r.onExtension c).map (within ls) := by
  simp only [onExtension, onDirective_within, enter_within]
  split
  · rfl
  split <;> rfl

theorem onName_within (cs : List Char) (c : Char) :
    (r.within ls).onName cs c = (r.onName cs c).map (within ls) := by
  simp only [onName, within_names, within_flags, enter_within, openGroup_within,
    apply_ite (Option.map (within ls)), Option.map_some, Option.map_none]
  rfl

/-- What follows a step that leaves the outer levels alone, and does so itself, does so as well. -/
theorem bind_within {x y : Option Reader} {f : Reader → Option Reader} (h : x = y.map (within ls))
    (hf : ∀ r, f (r.within ls) = (f r).map (within ls)) :
    x.bind f = (y.bind f).map (within ls) := by
  subst h
  cases y with
  | none => rfl
  | some r => exact hf r

theorem addItem?_within (s : CharSet) (depth : Nat) :
    (r.within ls).addItem? s depth = (r.addItem? s depth).map (within ls) := by
  simp only [addItem?, within_brackets]
  split <;> rfl

theorem addPrimitive?_within (p : Primitive) :
    (r.within ls).addPrimitive? p = (r.addPrimitive? p).map (within ls) := by
  cases p with
  | char c byte =>
    simp only [addPrimitive?, within_flags, addItem?_within]
    split <;> rfl
  | set s => exact addItem?_within s 0
  | look l => rfl

theorem addRange?_within (p q : Primitive) :
    (r.within ls).addRange? p q = (r.addRange? p q).map (within ls) := by
  simp only [addRange?, within_flags, addItem?_within]
  split
  · split <;> rfl
  · rfl

theorem closeBracket?_within : (r.within ls).closeBracket? = r.closeBracket?.map (within ls) := by
  simp only [closeBracket?, within_brackets, within_flags]
  split
  · rfl
  · rw [Option.map_map]
    rfl
  · rename_i b rest _ _
    cases b.closeInner? r.flags with
    | none => rfl
    | some p => exact addItem?_within (r := { r with brackets := rest }) p.1 p.2

theorem onOperator_within (c : Char) :
    (r.within ls).onOperator c = (r.onOperator c).map (within ls) := by
  simp only [onOperator, within_brackets, within_flags]
  split <;> rfl

theorem onItems_within (c : Char) :
    (r.within ls).onItems c = (r.onItems c).map (within ls) := by
  simp only [onItems, closeBracket?_within, enter_within]
  split <;> rfl

theorem onItem_within (p : Primitive) (c : Char) :
    (r.within ls).onItem p c = (r.onItem p c).map (within ls) := by
  simp only [onItem, enter_within]
  split
  · rfl
  · exact bind_within (addPrimitive?_within p) fun r => onItems_within c

theorem onBracketLead_within (c : Char) :
    (r.within ls).onBracketLead c = (r.onBracketLead c).map (within ls) := by
  simp only [onBracketLead, within_brackets, addItem?_within, onItems_within]
  split
  · split
    · cases r.addItem? (.single '-') 0 <;> rfl
    · split <;> rfl
  · rfl

theorem onBracketOpen_within (c : Char) :
    (r.within ls).onBracketOpen c = (r.onBracketOpen c).map (within ls) := by
  simp only [onBracketOpen, within_brackets, onBracketLead_within]
  split
  · split <;> rfl
  · rfl

theorem onRangeEnd_within (p : Primitive) (c : Char) :
    (r.within ls).onRangeEnd p c = (r.onRangeEnd p c).map (within ls) := by
  simp only [onRangeEnd, enter_within, addRange?_within]
  split <;> rfl

theorem onDash_within (p : Primitive) (adjacent : Bool) (c : Char) :
    (r.within ls).onDash p adjacent c = (r.onDash p adjacent c).map (within ls) := by
  simp only [onDash, within_flags, enter_within, onRangeEnd_within]
  split
  · rfl
  split
  · rfl
  split
  · exact bind_within (addPrimitive?_within p) fun r => onItem_within hyphen c
  split
  · refine bind_within (addPrimitive?_within p) fun r => ?_
    split
    · exact onOperator_within c
    · exact onItem_within hyphen c
  · rfl

theorem onDashComment_within (p : Primitive) (unfinished : Bool) (c : Char) :
    (r.within ls).onDashComment p unfinished c =
      (r.onDashComment p unfinished c).map (within ls) := by
  simp only [onDashComment, enter_within, onRangeEnd_within]
  split
  · rfl
  split
  · refine bind_within (addPrimitive?_within p) fun r => ?_
    split
    · rfl
    · exact onItem_within hyphen c
  split <;> rfl

theorem deliver?_within (p : Place) (x : Primitive) :
    (r.within ls).deliver? p x = (r.deliver? p x).map (within ls) := by
  cases p with
  | branch =>
    cases x with
    | char c byte =>
      simp only [deliver?, Option.map_map]
      rfl
    | set s => rfl
    | look l => rfl
  | item => cases x <;> rfl
  | rangeEnd first => exact addRange?_within first x

theorem onEscape_within (p : Place) (c : Char) :
    (r.within ls).onEscape p c = (r.onEscape p c).map (within ls) := by
  simp only [onEscape, within_flags, enter_within, deliver?_within]
  split
  · rfl
  split
  · rfl
  split
  · cases r.flags.shorthand? c.isUpper _ _ <;> rfl
  split
  · simp only [Option.map_map]
    congr 1
    funext r
    by_cases hc : c = 'b' <;> simp [hc]
  split
  · rfl
  split <;> rfl

theorem onHexDigits_within (p : Place) (width left value : Nat) (c : Char) :
    (r.within ls).onHexDigits p width left value c =
      (r.onHexDigits p width left value c).map (within ls) := by
  simp only [onHexDigits, enter_within, deliver?_within]
  cases hexValue? c with
  | none => rfl
  | some d =>
    simp only [Option.bind_some]
    split
    · cases scalar? (16 * value + d) <;> rfl
    · rfl

theorem onHex_within (p : Place) (width : Nat) (c : Char) :
    (r.within ls).onHex p width c = (r.onHex p width c).map (within ls) := by
  simp only [onHex, enter_within, onHexDigits_within]
  split <;> rfl

theorem onHexBrace_within (p : Place) (value : Option Nat) (c : Char) :
    (r.within ls).onHexBrace p value c = (r.onHexBrace p value c).map (within ls) := by
  simp only [onHexBrace, enter_within, deliver?_within]
  split
  · cases value.bind scalar? <;> rfl
  · cases hexValue? c <;> rfl

theorem onBoundaryBrace_within (c : Char) :
    (r.within ls).onBoundaryBrace c = (r.onBoundaryBrace c).map (within ls) := by
  simp only [onBoundaryBrace, enter_within, onCount_within]
  split <;> rfl

theorem onBoundaryName_within (cs : List Char) (c : Char) :
    (r.within ls).onBoundaryName cs c = (r.onBoundaryName cs c).map (within ls) := by
  simp only [onBoundaryName, enter_within, within_flags]
  split
  · rfl
  split
  · rw [Option.map_map]
    rfl
  · rfl

theorem closeGroup?_within (h : r.closeGroup? = some r') :
    (r.within ls).closeGroup? = some (r'.within ls) := by
  unfold closeGroup? at h ⊢
  cases ho : r.outer with
  | nil => simp [ho] at h
  | cons up rest =>
    simp only [ho, Option.some.injEq] at h
    subst h
    simp [within, ho]

/-- Outside classes and escapes, only a closing parenthesis looks at the levels around. -/
theorem onBranch_within_of_ne {c : Char} (hc : c ≠ ')') :
    (r.within ls).onBranch c = (r.onBranch c).map (within ls) := by
  simp only [onBranch, within_flags, within_level, enter_within, push_within, repeatLast?_within,
    openCount?_within]
  split
  case h_2 => exact absurd rfl hc
  case h_10 =>
    rw [Option.map_map]
    rfl
  case h_13 =>
    rw [Option.map_map]
    rfl
  all_goals rfl

theorem onBranch_within {c : Char} (h : r.onBranch c = some r') :
    (r.within ls).onBranch c = some (r'.within ls) := by
  by_cases hc : c = ')'
  · subst hc
    exact closeGroup?_within h
  · rw [onBranch_within_of_ne hc, h, Option.map_some]

theorem onOpened_within {c : Char} (h : r.onOpened c = some r') :
    (r.within ls).onOpened c = some (r'.within ls) := by
  unfold onOpened at h ⊢
  split at h
  case isTrue hc =>
    cases h
    rw [if_pos hc, enter_within]
  case isFalse hc => rw [if_neg hc, within_flags, openGroup_within, onBranch_within h]

variable [PropertyTable]

theorem deliverProperty?_within (p : Place) (negated : Bool) (name : List Char) :
    (r.within ls).deliverProperty? p negated name =
      (r.deliverProperty? p negated name).map (within ls) := by
  simp only [deliverProperty?, within_flags, deliver?_within]
  cases r.flags.property? negated name <;> rfl

theorem onProperty_within (p : Place) (negated : Bool) (c : Char) :
    (r.within ls).onProperty p negated c = (r.onProperty p negated c).map (within ls) := by
  simp only [onProperty, enter_within, deliverProperty?_within]
  split
  · rfl
  split <;> rfl

theorem onPropertyName_within (p : Place) (negated : Bool) (cs : List Char) (c : Char) :
    (r.within ls).onPropertyName p negated cs c =
      (r.onPropertyName p negated cs c).map (within ls) := by
  simp only [onPropertyName, enter_within, deliverProperty?_within]
  split <;> rfl

theorem dispatch_within {c : Char} (h : r.dispatch c = some r') :
    (r.within ls).dispatch c = some (r'.within ls) := by
  unfold dispatch at h ⊢
  rw [within_mode]
  cases hm : r.mode <;> simp only [hm] at h ⊢
  case branch | repeated | boundary => exact onBranch_within h
  case opened => exact onOpened_within h
  case counted =>
    split at h
    case isTrue hc =>
      cases h
      rw [if_pos hc, enter_within]
    case isFalse hc => rw [if_neg hc, onBranch_within h]
  case named =>
    split at h
    case isTrue hc =>
      cases h
      rw [if_pos hc, enter_within]
    case isFalse hc => exact nomatch h
  all_goals
    simp only [onCount_within, onExtension_within, onName_within, onDirective_within,
      onEscape_within, onBoundaryBrace_within, onBoundaryName_within, onHex_within,
      onHexDigits_within, onHexBrace_within, onProperty_within, onPropertyName_within,
      onBracketOpen_within, onBracketLead_within, onItems_within, onItem_within, onDash_within,
      onDashComment_within, onRangeEnd_within, h, Option.map_some]

theorem skipOrDispatch_within {c : Char} (h : r.skipOrDispatch c = some r') :
    (r.within ls).skipOrDispatch c = some (r'.within ls) := by
  unfold skipOrDispatch at h ⊢
  rw [within_flags, within_mode]
  split at h
  case isTrue hc =>
    cases h
    rw [if_pos hc]
  case isFalse hc =>
    rw [if_neg hc]
    split at h
    case isTrue hs =>
      cases h
      rw [if_pos hs]
      rfl
    case isFalse hs => rw [if_neg hs, dispatch_within h]

/-- A step that succeeds does the same inside further groups. -/
theorem step_within {c : Char} (h : r.step c = some r') :
    (r.within ls).step c = some (r'.within ls) := by
  unfold step at h ⊢
  rw [within_comment]
  by_cases hr : r.comment = true
  · rw [if_pos hr] at h ⊢
    cases h
    by_cases hc : c = '\n'
    · rw [if_pos hc, if_pos hc]
      rfl
    · rw [if_neg hc, if_neg hc]
  · rw [if_neg hr] at h ⊢
    simp only [record_within, within_mode] at h ⊢
    split at h
    case h_1 =>
      split at h
      case isTrue hc =>
        cases h
        rw [if_pos hc, enter_within]
      case isFalse hc => rw [if_neg hc, enter_within, skipOrDispatch_within h]
    case h_2 =>
      split at h
      case isTrue hc =>
        cases h
        rw [if_pos hc, enter_within]
      case isFalse hc => rw [if_neg hc, enter_within, skipOrDispatch_within h]
    case h_3 =>
      split at h
      case isTrue hc => rw [if_pos hc, onOperator_within, h, Option.map_some]
      case isFalse hc => rw [if_neg hc, enter_within, skipOrDispatch_within h]
    case h_4 => exact skipOrDispatch_within h

/-- A text that can be read is read the same way inside further groups. -/
theorem feed_within {cs : List Char} (h : r.feed cs = some r') :
    (r.within ls).feed cs = some (r'.within ls) := by
  induction cs generalizing r with
  | nil =>
    cases h
    rfl
  | cons c cs ih =>
    simp only [feed, List.foldlM_cons] at h ⊢
    cases hs : r.step c with
    | none => simp [hs] at h
    | some m =>
      rw [hs] at h
      rw [step_within hs]
      exact ih h

end NumberingPlan.Pattern.Reader
