import OandaV3.Program

/-! # Programs in two stages

A program is staged when every call it makes is `early` until one call is answered with a mark, and every
call after that is `late` for this mark.

* `Run.staged`: in an interleaving of staged programs, the calls of a thread are all early and unmarked;
  or one of them got a mark, and each is late for it, or early without another mark. -/

namespace Interaction

variable {Call : Type} {Ans : Call → Type} {ε σ ι α β τ : Type}

/-- Early calls up to a mark, late ones after it. -/
def Program.Staged (mark : (c : Call) → Except ε (Ans c) → Option τ) (early : Call → Prop)
    (late : τ → Call → Prop) : Program Call Ans ε α → Prop
  | .done _ => True
  | .raise _ => True
  | .call c k => early c ∧ ∀ r, match mark c r with
      | none => (k r).Staged mark early late
      | some t => (k r).Calls (late t)

variable {mark : (c : Call) → Except ε (Ans c) → Option τ} {early : Call → Prop}
  {late : τ → Call → Prop}

/-- Where a thread is: before the mark, or after it. -/
def StageOf (mark : (c : Call) → Except ε (Ans c) → Option τ) (early : Call → Prop)
    (late : τ → Call → Prop) (tr : List (Event Call Ans ε σ ι)) (i : ι)
    (p : Program Call Ans ε α) : Prop :=
  (p.Staged mark early late ∧
      ∀ e ∈ tr, e.thread = i → early e.call ∧ mark e.call e.answer = none) ∨
    ∃ t, p.Calls (late t) ∧ (∃ f ∈ tr, f.thread = i ∧ mark f.call f.answer = some t) ∧
      ∀ e ∈ tr, e.thread = i →
        (early e.call ∧ ∀ t' ∈ mark e.call e.answer, t' = t) ∨ late t e.call

section

variable {tr : List (Event Call Ans ε σ ι)} {i : ι} {p : Program Call Ans ε α}

theorem StageOf.other {e : Event Call Ans ε σ ι} (h : StageOf mark early late tr i p)
    (hne : e.thread ≠ i) : StageOf mark early late (tr ++ [e]) i p := by
  have hold : ∀ e' ∈ tr ++ [e], e'.thread = i → e' ∈ tr := fun e' he' hi =>
    (List.mem_append.mp he').resolve_right fun hlast => hne (List.mem_singleton.mp hlast ▸ hi)
  rcases h with ⟨hp, hearly⟩ | ⟨t, hp, ⟨f, hf, hmark⟩, hcalls⟩
  · exact Or.inl ⟨hp, fun e' he' hi => hearly e' (hold e' he' hi) hi⟩
  · exact Or.inr ⟨t, hp, ⟨f, List.mem_append_left _ hf, hmark⟩,
      fun e' he' hi => hcalls e' (hold e' he' hi) hi⟩

theorem StageOf.step {c : Call} {k : Except ε (Ans c) → Program Call Ans ε α} {r : Except ε (Ans c)}
    {s s' : σ} (h : StageOf mark early late tr i (.call c k)) :
    StageOf mark early late (tr ++ [⟨i, c, r, s, s'⟩]) i (k r) := by
  rcases h with ⟨⟨hc, hk⟩, hearly⟩ | ⟨t, ⟨hc, hk⟩, ⟨f, hf, hmark⟩, hcalls⟩
  · have hr := hk r
    cases hmark : mark c r with
    | none =>
        rw [hmark] at hr
        refine Or.inl ⟨hr, fun e he hi => ?_⟩
        rcases List.mem_append.mp he with hold | hlast
        · exact hearly e hold hi
        · obtain rfl := List.mem_singleton.mp hlast
          exact ⟨hc, hmark⟩
    | some t =>
        rw [hmark] at hr
        refine Or.inr ⟨t, hr, ⟨_, List.mem_append_right _ List.mem_cons_self, rfl, hmark⟩, ?_⟩
        intro e he hi
        rcases List.mem_append.mp he with hold | hlast
        · obtain ⟨hecall, hnone⟩ := hearly e hold hi
          refine Or.inl ⟨hecall, fun t' ht' => ?_⟩
          rw [hnone] at ht'
          cases ht'
        · obtain rfl := List.mem_singleton.mp hlast
          exact Or.inl ⟨hc, fun t' ht' => Option.some.inj (ht'.symm.trans hmark)⟩
  · refine Or.inr ⟨t, hk r, ⟨f, List.mem_append_left _ hf, hmark⟩, fun e he hi => ?_⟩
    rcases List.mem_append.mp he with hold | hlast
    · exact hcalls e hold hi
    · obtain rfl := List.mem_singleton.mp hlast
      exact Or.inr hc

end

theorem Run.staged [DecidableEq ι] {H : Host Call Ans ε σ} {env : σ → σ → Prop}
    {pool₀ pool : ι → Program Call Ans ε α} {s₀ s : σ} {tr : List (Event Call Ans ε σ ι)}
    (h₀ : ∀ i, (pool₀ i).Staged mark early late) (hrun : Run H env pool₀ s₀ tr pool s) (i : ι) :
    StageOf mark early late tr i (pool i) := by
  induction hrun generalizing i with
  | start =>
      refine Or.inl ⟨h₀ i, fun e he => ?_⟩
      cases he
  | env _ _ ih => exact ih i
  | @call tr pool s s' j c k r _ hj _ ih =>
      by_cases hij : i = j
      · subst hij
        rw [Function.update_self]
        exact (hj ▸ ih i).step
      · rw [Function.update_of_ne hij]
        exact (ih i).other (Ne.symm hij)

end Interaction
