import NumberingPlan.Proofs.Emergency.Answers

/-! Compiled patterns kept between questions. An entry is what compiling its text gives, and stays
as it is; so no answer depends on what was asked before. Main statement:
`Registry.answers_whatever_asked`. -/
namespace NumberingPlan
open Pattern

namespace PatternCache

def Lasts (cache later : PatternCache) : Prop :=
  ∀ pattern t, cache.lookup pattern = some t → later.lookup pattern = some t

variable {cache later : PatternCache} {pattern : String} {t : Pattern.Tree Atom}

theorem mem_of_lookup (h : cache.lookup pattern = some t) : (pattern, t) ∈ cache := by
  obtain ⟨before, after, hsplit, -⟩ := List.lookup_eq_some_iff.1 h
  rw [hsplit]
  exact List.mem_append_right _ List.mem_cons_self

theorem not_mem_keys_of_lookup (h : cache.lookup pattern = none) :
    pattern ∉ cache.map Prod.fst := by
  intro hmem
  obtain ⟨⟨key, t⟩, hentry, rfl⟩ := List.mem_map.1 hmem
  exact bne_iff_ne.1 (List.lookup_eq_none_iff.1 h _ hentry) rfl

theorem Lasts.refl (cache : PatternCache) : cache.Lasts cache := fun _ _ h => h

theorem Lasts.trans {last : PatternCache} (h : cache.Lasts later) (h' : later.Lasts last) :
    cache.Lasts last := fun pattern t hfound => h' pattern t (h pattern t hfound)

/-- A new entry hides no old one. -/
theorem Lasts.cons (hnew : cache.lookup pattern = none) (t : Pattern.Tree Atom) :
    cache.Lasts ((pattern, t) :: cache) := by
  intro key u hfound
  have hne : (key == pattern) = false := by
    rw [beq_eq_false_iff_ne]
    intro heq
    rw [heq, hnew] at hfound
    cases hfound
  rw [List.lookup_cons, hne]
  exact hfound

variable [Engine]

/-- No text has two entries, and an entry is what its text compiles to. -/
structure Faithful (cache : PatternCache) : Prop where
  distinct : (cache.map Prod.fst).Nodup
  compiled : ∀ pattern t, (pattern, t) ∈ cache → compile pattern.toList = .ok t

theorem Faithful.empty : Faithful [] where
  distinct := List.nodup_nil
  compiled := fun _ _ h => absurd h List.not_mem_nil

theorem Faithful.compile_of_lookup (h : cache.Faithful) (hfound : cache.lookup pattern = some t) :
    compile pattern.toList = .ok t :=
  h.compiled pattern t (mem_of_lookup hfound)

theorem Faithful.lookup_of_not_compiles (h : cache.Faithful)
    (hpattern : ¬ Compiles pattern.toList) : cache.lookup pattern = none := by
  cases hfound : cache.lookup pattern with
  | none => rfl
  | some t => exact absurd ⟨t, h.compile_of_lookup hfound⟩ hpattern

theorem Faithful.cons (h : cache.Faithful) (hnew : cache.lookup pattern = none)
    (hcompile : compile pattern.toList = .ok t) : Faithful ((pattern, t) :: cache) where
  distinct := List.nodup_cons.2 ⟨not_mem_keys_of_lookup hnew, h.distinct⟩
  compiled := by
    intro key u hmem
    rcases List.mem_cons.1 hmem with heq | hmem
    · cases heq
      exact hcompile
    · exact h.compiled key u hmem

/-- A pattern is found, or compiled and kept, or refused. -/
theorem get_cases (pattern : String) (cache : PatternCache) :
    (∃ t, cache.lookup pattern = some t ∧ (get pattern).run cache = (some t, cache)) ∨
      (∃ t, cache.lookup pattern = none ∧ compile pattern.toList = .ok t ∧
        (get pattern).run cache = (some t, (pattern, t) :: cache)) ∨
      ¬ Compiles pattern.toList ∧ cache.lookup pattern = none ∧
        (get pattern).run cache = (none, cache) := by
  cases hfound : cache.lookup pattern with
  | some t => exact .inl ⟨t, rfl, by simp [get, StateT.run, hfound]⟩
  | none =>
    cases hcompile : compile pattern.toList with
    | ok t => exact .inr (.inl ⟨t, rfl, rfl, by simp [get, StateT.run, hfound, hcompile]⟩)
    | error d =>
      refine .inr (.inr ⟨?_, rfl, by simp [get, StateT.run, hfound, hcompile]⟩)
      rintro ⟨t, ht⟩
      rw [hcompile] at ht
      cases ht

/-- Whether it is kept or not, a pattern gives the tree it compiles to. -/
theorem Faithful.get_fst (h : cache.Faithful) (pattern : String) :
    ((get pattern).run cache).1 = (compile pattern.toList).toOption := by
  rcases get_cases pattern cache with ⟨t, hfound, hrun⟩ | ⟨t, -, hcompile, hrun⟩ | ⟨hno, -, hrun⟩
  · rw [hrun, h.compile_of_lookup hfound]
    rfl
  · rw [hrun, hcompile]
    rfl
  · rw [hrun]
    cases hcompile : compile pattern.toList with
    | ok t => exact absurd ⟨t, hcompile⟩ hno
    | error d => rfl

theorem Faithful.get_snd (h : cache.Faithful) (pattern : String) :
    Faithful ((get pattern).run cache).2 ∧ cache.Lasts ((get pattern).run cache).2 := by
  rcases get_cases pattern cache with ⟨t, -, hrun⟩ | ⟨t, hnew, hcompile, hrun⟩ | ⟨-, -, hrun⟩
  · rw [hrun]
    exact ⟨h, Lasts.refl cache⟩
  · rw [hrun]
    exact ⟨h.cons hnew hcompile, Lasts.cons hnew t⟩
  · rw [hrun]
    exact ⟨h, Lasts.refl cache⟩

end PatternCache

namespace Registry

section
variable [Engine] (g : Registry) {cache : PatternCache}

theorem ask_run_of_match {q : Question} {pattern : String} {digits : List Char}
    (hq : q.match? g = some (pattern, digits)) (cache : PatternCache) :
    (g.ask q).run cache =
      (((PatternCache.get pattern).run cache).1.any (·.isMatch digits),
        ((PatternCache.get pattern).run cache).2) := by
  unfold ask
  rw [hq]
  simp only [StateT.run_bind]
  cases hget : (PatternCache.get pattern).run cache with
  | mk found later => cases found <;> rfl

theorem answer_of_match {q : Question} {pattern : String} {digits : List Char}
    (hq : q.match? g = some (pattern, digits)) :
    g.answer q = (compile pattern.toList).toOption.any (·.isMatch digits) := by
  unfold answer
  rw [hq]
  cases hcompile : compile pattern.toList <;> simp [hcompile, Except.toOption]

/-- One question, from whatever is kept. -/
theorem ask_of_faithful (h : cache.Faithful) (q : Question) :
    ((g.ask q).run cache).1 = g.answer q ∧ PatternCache.Faithful ((g.ask q).run cache).2 ∧
      cache.Lasts ((g.ask q).run cache).2 := by
  cases hq : q.match? g with
  | none =>
    have hask : (g.ask q).run cache = (false, cache) := by
      unfold ask
      rw [hq]
      rfl
    have hanswer : g.answer q = false := by
      unfold answer
      rw [hq]
    rw [hask, hanswer]
    exact ⟨rfl, h, .refl cache⟩
  | some m =>
    obtain ⟨pattern, digits⟩ := m
    rw [g.ask_run_of_match hq, g.answer_of_match hq, h.get_fst]
    exact ⟨rfl, h.get_snd pattern⟩

/-- Any number of questions in turn. -/
theorem mapM_ask_of_faithful (h : cache.Faithful) (qs : List Question) :
    ((qs.mapM g.ask).run cache).1 = qs.map g.answer ∧
      PatternCache.Faithful ((qs.mapM g.ask).run cache).2 ∧
      cache.Lasts ((qs.mapM g.ask).run cache).2 := by
  induction qs generalizing cache with
  | nil => exact ⟨rfl, h, .refl cache⟩
  | cons q qs ih =>
    obtain ⟨hanswer, hfaithful, hlasts⟩ := g.ask_of_faithful h q
    obtain ⟨hrest, hfaithful', hlasts'⟩ := ih hfaithful
    have hrun : ((q :: qs).mapM g.ask).run cache =
        (((g.ask q).run cache).1 :: ((qs.mapM g.ask).run ((g.ask q).run cache).2).1,
          ((qs.mapM g.ask).run ((g.ask q).run cache).2).2) := by
      rw [List.mapM_cons]
      rfl
    rw [hrun, hanswer, hrest]
    exact ⟨rfl, hfaithful', hlasts.trans hlasts'⟩

/-- What is kept once some questions were asked, where nothing was kept at first. -/
def keptAfter (asked : List Question) : PatternCache := ((asked.mapM g.ask).run []).2

theorem keptAfter_append (asked further : List Question) :
    g.keptAfter (asked ++ further) = ((further.mapM g.ask).run (g.keptAfter asked)).2 := by
  rw [keptAfter, List.mapM_append]
  rfl

/-- Every answer is the one that is given where nothing was asked before. Of what is kept each text
has the tree it compiles to, no text that does not compile is among it, and it stays. -/
theorem answers_whatever_asked (asked : List Question) :
    ((asked.mapM g.ask).run []).1 = asked.map (fun q => ((g.ask q).run []).1) ∧
      (g.keptAfter asked).Faithful ∧
      (∀ pattern, ¬ Compiles pattern.toList → (g.keptAfter asked).lookup pattern = none) ∧
      ∀ further, (g.keptAfter asked).Lasts (g.keptAfter (asked ++ further)) := by
  obtain ⟨hanswers, hfaithful, -⟩ := g.mapM_ask_of_faithful .empty asked
  have hfresh : ∀ q, ((g.ask q).run []).1 = g.answer q := fun q =>
    (g.ask_of_faithful .empty q).1
  refine ⟨?_, hfaithful, fun pattern => hfaithful.lookup_of_not_compiles, fun further => ?_⟩
  · simp only [hanswers, hfresh]
  · rw [keptAfter_append]
    exact (g.mapM_ask_of_faithful hfaithful further).2.2

end

def sharedPattern : Registry :=
  ofRecords [.ofEmergency "AA" "9|911", .ofEmergency "BB" "9|911", .ofEmergency "CC" "911("]

def sharedPatternAsked : List Question :=
  [⟨.exactly, "911", "CC"⟩, ⟨.exactly, "911", "AA"⟩, ⟨.exactly, "91", "BB"⟩,
    ⟨.connects, "91", "BB"⟩, ⟨.exactly, "*911", "BB"⟩, ⟨.exactly, "911", "CC"⟩]

theorem answers_sharedPattern :
    ((sharedPatternAsked.mapM sharedPattern.ask).run []).1 =
        [false, true, false, true, true, false] ∧
      ¬ Compiles "^(?:911()$".toList ∧
      (sharedPattern.keptAfter sharedPatternAsked).lookup "^(?:911()$" = none := by
  obtain ⟨hanswers, -, hrefused, -⟩ := answers_whatever_asked sharedPattern sharedPatternAsked
  have hbad : ¬ Compiles "^(?:911()$".toList := by decide
  exact ⟨hanswers.trans rfl, hbad, hrefused _ hbad⟩

end Registry

end NumberingPlan
