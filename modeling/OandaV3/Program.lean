import Mathlib.Data.List.Basic
import Mathlib.Logic.Function.Basic

/-! # Programs that call a shared host

A `Program` issues calls `c : Call` and continues with what the host returns: an answer in
`Ans c`, or an exception in `ε` that the continuation may handle.  A program is a well-founded
tree, so every program stops after finitely many calls.

* `Program.eval` runs a program alone on a host given by a function.
* `Program.Rg` is the rely–guarantee weakest precondition over an arbitrary host: between two
  calls the environment may take any step of `rely`, every call of the program is a step of
  `guar`, and the result satisfies the postcondition.  `rg_bind`, `rg_perform`, `rg_each_after`,
  `rg_attempt` and `rg_tryFinally` are its rules.
* `Run` interleaves a family of programs, one call at a time, with steps of the environment,
  and records every call in a trace.  `Run.rg` is the parallel rule. -/

namespace Interaction

variable {Call : Type} {Ans : Call → Type} {ε σ ι α β γ : Type}

/-- A program returning `α` or raising `ε`. -/
inductive Program (Call : Type) (Ans : Call → Type) (ε α : Type) : Type where
  | done (a : α)
  | raise (e : ε)
  | call (c : Call) (k : Except ε (Ans c) → Program Call Ans ε α)

namespace Program

/-- Sequencing: exceptions of the first program are exceptions of the whole. -/
def bind : Program Call Ans ε α → (α → Program Call Ans ε β) → Program Call Ans ε β
  | done a, f => f a
  | raise e, _ => raise e
  | call c k, f => call c (fun r => (k r).bind f)

instance : Monad (Program Call Ans ε) where
  pure := done
  bind := bind

theorem bind_def (p : Program Call Ans ε α) (f : α → Program Call Ans ε β) :
    (p >>= f) = p.bind f := rfl

theorem bind_done (p : Program Call Ans ε α) : p.bind done = p := by
  induction p with
  | done a => rfl
  | raise e => rfl
  | call c k ih => simp only [bind]; congr 1; funext r; exact ih r

/-- One call; an exception of the host is raised. -/
def perform (c : Call) : Program Call Ans ε (Ans c) :=
  call c (fun r => match r with
    | .ok a => done a
    | .error e => raise e)

/-- A pure computation that may raise. -/
def ofExcept : Except ε α → Program Call Ans ε α
  | .ok a => done a
  | .error e => raise e

/-- Run a program and return its exception as a value. -/
def attempt : Program Call Ans ε α → Program Call Ans ε (Except ε α)
  | done a => done (.ok a)
  | raise e => done (.error e)
  | call c k => call c (fun r => (k r).attempt)

/-- `try: p finally: cleanup`; an exception of the cleanup replaces the outcome of `p`. -/
def tryFinally (p : Program Call Ans ε α) (cleanup : Program Call Ans ε β) : Program Call Ans ε α :=
  p.attempt.bind fun r => cleanup.bind fun _ => ofExcept r

/-- Run a program for every element of a list, in order, and collect the results. -/
def each (f : α → Program Call Ans ε β) : List α → Program Call Ans ε (List β)
  | [] => done []
  | a :: as => (f a).bind (fun b => (each f as).bind (fun bs => done (b :: bs)))

end Program

/-! ### Evaluation on a host given by a function -/

section eval

variable (h : (c : Call) → σ → Except ε (Ans c) × σ)

def Program.eval : Program Call Ans ε α → σ → Except ε α × σ
  | .done a, s => (.ok a, s)
  | .raise e, s => (.error e, s)
  | .call c k, s => (k (h c s).1).eval (h c s).2

@[simp] theorem eval_done (a : α) (s : σ) :
    (Program.done a : Program Call Ans ε α).eval h s = (.ok a, s) := rfl

@[simp] theorem eval_pure (a : α) (s : σ) :
    (pure a : Program Call Ans ε α).eval h s = (.ok a, s) := rfl

@[simp] theorem eval_raise (e : ε) (s : σ) :
    (Program.raise e : Program Call Ans ε α).eval h s = (.error e, s) := rfl

theorem eval_bind (p : Program Call Ans ε α) (f : α → Program Call Ans ε β) (s : σ) :
    (p.bind f).eval h s = match p.eval h s with
      | (.ok a, s') => (f a).eval h s'
      | (.error e, s') => (.error e, s') := by
  induction p generalizing s with
  | done a => rfl
  | raise e => rfl
  | call c k ih => exact ih (h c s).1 (h c s).2

theorem eval_bind_of_ok {p : Program Call Ans ε α} {f : α → Program Call Ans ε β} {s s' : σ} {a : α}
    (hp : p.eval h s = (.ok a, s')) : (p.bind f).eval h s = (f a).eval h s' := by
  rw [eval_bind, hp]

theorem eval_bind_ok {p : Program Call Ans ε α} {f : α → Program Call Ans ε β} {s s' : σ} {b : β}
    (hb : (p.bind f).eval h s = (.ok b, s')) :
    ∃ a s₁, p.eval h s = (.ok a, s₁) ∧ (f a).eval h s₁ = (.ok b, s') := by
  rw [eval_bind] at hb
  cases hp : p.eval h s with
  | mk r s₁ =>
      rw [hp] at hb
      cases r with
      | ok a => exact ⟨a, s₁, rfl, hb⟩
      | error e => simp at hb

theorem eval_perform (c : Call) (s : σ) :
    (Program.perform c : Program Call Ans ε (Ans c)).eval h s = h c s := by
  simp only [Program.perform, Program.eval]
  cases hc : h c s with
  | mk r s' => cases r <;> rfl

theorem eval_ofExcept (x : Except ε α) (s : σ) :
    (Program.ofExcept x : Program Call Ans ε α).eval h s = (x, s) := by
  cases x <;> rfl

theorem eval_attempt (p : Program Call Ans ε α) (s : σ) :
    p.attempt.eval h s = (.ok (p.eval h s).1, (p.eval h s).2) := by
  induction p generalizing s with
  | done a => rfl
  | raise e => rfl
  | call c k ih => exact ih (h c s).1 (h c s).2

end eval

/-! ### Hosts and the rely–guarantee rules -/

/-- A host: how a call, made in a state, may answer and change the state.  An unrelated call
is blocked. -/
structure Host (Call : Type) (Ans : Call → Type) (ε σ : Type) where
  step : (c : Call) → σ → Except ε (Ans c) → σ → Prop

namespace Host

/-- The host that answers by a function. -/
def ofFun (h : (c : Call) → σ → Except ε (Ans c) × σ) : Host Call Ans ε σ where
  step c s r s' := h c s = (r, s')

/-- The host restricted to the calls that meet a condition in the state they are made in. -/
def when (H : Host Call Ans ε σ) (ok : Call → σ → Prop) : Host Call Ans ε σ where
  step c s r s' := ok c s ∧ H.step c s r s'

end Host

section rg

variable (H : Host Call Ans ε σ) (rely guar : σ → σ → Prop)

/-- Rely–guarantee weakest precondition. -/
def Program.Rg : Program Call Ans ε α → (Except ε α → σ → Prop) → σ → Prop
  | .done a, Q, s => ∀ s', rely s s' → Q (.ok a) s'
  | .raise e, Q, s => ∀ s', rely s s' → Q (.error e) s'
  | .call c k, Q, s => ∀ s₁, rely s s₁ → ∀ r s₂, H.step c s₁ r s₂ →
      guar s₁ s₂ ∧ (k r).Rg Q s₂

variable {H rely guar}

/-- The precondition survives steps of the environment. -/
theorem Program.Rg.of_rely (htr : ∀ a b c, rely a b → rely b c → rely a c)
    {p : Program Call Ans ε α} {Q : Except ε α → σ → Prop} {s s' : σ}
    (hp : p.Rg H rely guar Q s) (hs : rely s s') : p.Rg H rely guar Q s' := by
  cases p with
  | done a => exact fun t ht => hp t (htr _ _ _ hs ht)
  | raise e => exact fun t ht => hp t (htr _ _ _ hs ht)
  | call c k => exact fun t ht => hp t (htr _ _ _ hs ht)

theorem Program.Rg.mono {p : Program Call Ans ε α} {Q Q' : Except ε α → σ → Prop} {s : σ}
    (hp : p.Rg H rely guar Q s) (hQ : ∀ r t, Q r t → Q' r t) : p.Rg H rely guar Q' s := by
  induction p generalizing s with
  | done a => exact fun t ht => hQ _ _ (hp t ht)
  | raise e => exact fun t ht => hQ _ _ (hp t ht)
  | call c k ih =>
      intro t ht r t' hc
      exact ⟨(hp t ht r t' hc).1, ih r (hp t ht r t' hc).2⟩

theorem rg_bind {p : Program Call Ans ε α} {f : α → Program Call Ans ε β}
    {Q : Except ε β → σ → Prop} {s : σ} (hrefl : ∀ t, rely t t)
    (hp : p.Rg H rely guar (fun r t => match r with
      | .ok a => (f a).Rg H rely guar Q t
      | .error e => Q (.error e) t) s) : (p.bind f).Rg H rely guar Q s := by
  induction p generalizing s with
  | done a => exact hp s (hrefl s)
  | raise e => exact hp
  | call c k ih =>
      intro t ht r t' hc
      exact ⟨(hp t ht r t' hc).1, ih r (hp t ht r t' hc).2⟩

theorem rg_perform {c : Call} {f : Ans c → Program Call Ans ε β} {Q : Except ε β → σ → Prop}
    {s : σ} (hc : ∀ s₁, rely s s₁ → ∀ r s₂, H.step c s₁ r s₂ → guar s₁ s₂ ∧ match r with
      | .ok a => (f a).Rg H rely guar Q s₂
      | .error e => ∀ s₃, rely s₂ s₃ → Q (.error e) s₃) :
    ((Program.perform c).bind f).Rg H rely guar Q s := by
  intro s₁ h₁ r s₂ h₂
  obtain ⟨hg, hk⟩ := hc s₁ h₁ r s₂ h₂
  refine ⟨hg, ?_⟩
  cases r with
  | ok a => exact hk
  | error e => exact hk

theorem rg_ofExcept {x : Except ε α} {f : α → Program Call Ans ε β} {Q : Except ε β → σ → Prop}
    {s : σ} (hok : ∀ a, x = .ok a → (f a).Rg H rely guar Q s)
    (herr : ∀ e, x = .error e → ∀ s', rely s s' → Q (.error e) s') :
    ((Program.ofExcept x).bind f).Rg H rely guar Q s := by
  cases x with
  | ok a => exact hok a rfl
  | error e => exact herr e rfl

theorem rg_attempt {p : Program Call Ans ε α} {Q : Except ε (Except ε α) → σ → Prop} {s : σ}
    (hp : p.Rg H rely guar (fun r t => Q (.ok r) t) s) : p.attempt.Rg H rely guar Q s := by
  induction p generalizing s with
  | done a => exact hp
  | raise e => exact hp
  | call c k ih =>
      intro t ht r t' hc
      exact ⟨(hp t ht r t' hc).1, ih r (hp t ht r t' hc).2⟩

/-- The postcondition of a cleanup: it keeps the outcome of the program, unless it fails itself. -/
def AfterCleanup (rely : σ → σ → Prop) (Q : Except ε α → σ → Prop) (r : Except ε α) :
    Except ε β → σ → Prop
  | .ok _, s => ∀ s', rely s s' → Q r s'
  | .error e, s => Q (.error e) s

theorem rg_tryFinally {p : Program Call Ans ε α} {cleanup : Program Call Ans ε β}
    {M Q : Except ε α → σ → Prop} {s : σ} (hrefl : ∀ t, rely t t) (hp : p.Rg H rely guar M s)
    (hcleanup : ∀ r t, M r t → cleanup.Rg H rely guar (AfterCleanup rely Q r) t) :
    (Program.tryFinally p cleanup).Rg H rely guar Q s := by
  refine rg_bind hrefl (rg_attempt (hp.mono fun r t hr => ?_))
  refine rg_bind hrefl ((hcleanup r t hr).mono fun c t' hc => ?_)
  cases c with
  | error e => exact hc
  | ok b =>
      cases r with
      | ok a => exact hc
      | error e => exact hc

theorem Program.Rg.and_invariant {p : Program Call Ans ε α} {Q : Except ε α → σ → Prop}
    {I : σ → Prop} {s : σ} (hp : p.Rg H rely guar Q s) (hrely : ∀ a b, rely a b → I a → I b)
    (hguar : ∀ a b, guar a b → I a → I b) (hs : I s) :
    p.Rg H rely guar (fun r t => Q r t ∧ I t) s := by
  induction p generalizing s with
  | done a => exact fun t ht => ⟨hp t ht, hrely s t ht hs⟩
  | raise e => exact fun t ht => ⟨hp t ht, hrely s t ht hs⟩
  | call c k ih =>
      intro t ht r t' hc
      obtain ⟨hg, hk⟩ := hp t ht r t' hc
      exact ⟨hg, ih r hk (hguar t t' hg (hrely s t ht hs))⟩

/-- A postcondition that only asks whether the program returned. -/
def After (J E : σ → Prop) : Except ε α → σ → Prop
  | .ok _, s => J s
  | .error _, s => E s

theorem rg_bind_after {p : Program Call Ans ε α} {f : α → Program Call Ans ε β} {J E : σ → Prop}
    {Q : Except ε β → σ → Prop} {s : σ} (hrefl : ∀ t, rely t t)
    (hp : p.Rg H rely guar (After J E) s) (hf : ∀ a t, J t → (f a).Rg H rely guar Q t)
    (hE : ∀ e t, E t → Q (.error e) t) : (p.bind f).Rg H rely guar Q s := by
  refine rg_bind hrefl (hp.mono fun r t hr => ?_)
  cases r with
  | ok a => exact hf a t hr
  | error e => exact hE e t hr

theorem rg_each_after {f : α → Program Call Ans ε β} {J E : σ → Prop} {as : List α} {s : σ}
    (hrefl : ∀ t, rely t t) (hJ : ∀ t t', J t → rely t t' → J t')
    (hbody : ∀ a ∈ as, ∀ t, J t → (f a).Rg H rely guar (After J E) t) (hs : J s) :
    (Program.each f as).Rg H rely guar (After J E) s := by
  induction as generalizing s with
  | nil => exact fun t ht => hJ s t hs ht
  | cons a as ih =>
      refine rg_bind_after hrefl (hbody a List.mem_cons_self s hs) (fun b t ht => ?_)
        fun e t ht => ht
      refine rg_bind_after hrefl (ih (fun a' ha' => hbody a' (List.mem_cons_of_mem a ha')) ht)
        (fun bs t' ht' => ?_) fun e t' ht' => ht'
      exact fun t'' ht'' => hJ t' t'' ht' ht''

/-- A host and an environment that can do less need no new proof. -/
theorem Program.Rg.conseq {H' : Host Call Ans ε σ} {rely' guar' : σ → σ → Prop}
    {p : Program Call Ans ε α} {Q : Except ε α → σ → Prop} {s : σ} (hp : p.Rg H rely guar Q s)
    (hhost : ∀ c s₁ r s₂, H'.step c s₁ r s₂ → H.step c s₁ r s₂)
    (hrely : ∀ t t', rely' t t' → rely t t') (hguar : ∀ t t', guar t t' → guar' t t') :
    p.Rg H' rely' guar' Q s := by
  induction p generalizing s with
  | done a => exact fun t ht => hp t (hrely _ _ ht)
  | raise e => exact fun t ht => hp t (hrely _ _ ht)
  | call c k ih =>
      intro t ht r t' hc
      obtain ⟨hg, hk⟩ := hp t (hrely _ _ ht) r t' (hhost _ _ _ _ hc)
      exact ⟨hguar _ _ hg, ih r hk⟩

end rg

/-! ### The calls of a program -/

section calls

variable {P P' : Call → Prop}

/-- Every call the program may make, whatever it is answered. -/
def Program.Calls (P : Call → Prop) : Program Call Ans ε α → Prop
  | .done _ => True
  | .raise _ => True
  | .call c k => P c ∧ ∀ r, (k r).Calls P

theorem Program.Calls.mono {p : Program Call Ans ε α} (h : p.Calls P) (hP : ∀ c, P c → P' c) :
    p.Calls P' := by
  induction p with
  | done a => trivial
  | raise e => trivial
  | call c k ih => exact ⟨hP c h.1, fun r => ih r (h.2 r)⟩

theorem calls_bind {p : Program Call Ans ε α} {f : α → Program Call Ans ε β} (hp : p.Calls P)
    (hf : ∀ a, (f a).Calls P) : (p.bind f).Calls P := by
  induction p with
  | done a => exact hf a
  | raise e => trivial
  | call c k ih => exact ⟨hp.1, fun r => ih r (hp.2 r)⟩

theorem calls_perform {c : Call} (hc : P c) :
    (Program.perform c : Program Call Ans ε (Ans c)).Calls P :=
  ⟨hc, fun r => by cases r <;> trivial⟩

theorem calls_ofExcept {x : Except ε α} :
    (Program.ofExcept x : Program Call Ans ε α).Calls P := by
  cases x <;> trivial

theorem calls_attempt {p : Program Call Ans ε α} (hp : p.Calls P) : p.attempt.Calls P := by
  induction p with
  | done a => trivial
  | raise e => trivial
  | call c k ih => exact ⟨hp.1, fun r => ih r (hp.2 r)⟩

theorem calls_each {f : α → Program Call Ans ε β} {as : List α} (hf : ∀ a ∈ as, (f a).Calls P) :
    (Program.each f as).Calls P := by
  induction as with
  | nil => trivial
  | cons a as ih =>
      exact calls_bind (hf a List.mem_cons_self) fun b =>
        calls_bind (ih fun a' ha' => hf a' (List.mem_cons_of_mem a ha')) fun bs => trivial

/-- Every call the program may make when its calls are answered as expected. -/
def Program.CallsOn (A : (c : Call) → Except ε (Ans c) → Prop) (P : Call → Prop) :
    Program Call Ans ε α → Prop
  | .done _ => True
  | .raise _ => True
  | .call c k => P c ∧ ∀ r, A c r → (k r).CallsOn A P

variable {A : (c : Call) → Except ε (Ans c) → Prop}

theorem Program.Calls.callsOn {p : Program Call Ans ε α} (h : p.Calls P) : p.CallsOn A P := by
  induction p with
  | done a => trivial
  | raise e => trivial
  | call c k ih => exact ⟨h.1, fun r _ => ih r (h.2 r)⟩

theorem callsOn_bind {p : Program Call Ans ε α} {f : α → Program Call Ans ε β} (hp : p.CallsOn A P)
    (hf : ∀ a, (f a).CallsOn A P) : (p.bind f).CallsOn A P := by
  induction p with
  | done a => exact hf a
  | raise e => trivial
  | call c k ih => exact ⟨hp.1, fun r hr => ih r (hp.2 r hr)⟩

/-- A call followed by a continuation, for the answers that are expected. -/
theorem callsOn_perform {c : Call} {f : Ans c → Program Call Ans ε β} (hc : P c)
    (hf : ∀ a, A c (.ok a) → (f a).CallsOn A P) : ((Program.perform c).bind f).CallsOn A P :=
  ⟨hc, fun r hr => match r, hr with
    | .ok a, hr => hf a hr
    | .error _, _ => trivial⟩

end calls

/-! ### Interleavings -/

/-- One call in a trace: who made it, what it answered, and the states around it. -/
structure Event (Call : Type) (Ans : Call → Type) (ε σ ι : Type) where
  thread : ι
  call : Call
  answer : Except ε (Ans call)
  pre : σ
  post : σ

/-- Reachable configurations of a family of programs on one host, with the trace of calls. -/
inductive Run [DecidableEq ι] (H : Host Call Ans ε σ) (env : σ → σ → Prop)
    (pool₀ : ι → Program Call Ans ε α) (s₀ : σ) :
    List (Event Call Ans ε σ ι) → (ι → Program Call Ans ε α) → σ → Prop
  | start : Run H env pool₀ s₀ [] pool₀ s₀
  | env {tr pool s s'} : Run H env pool₀ s₀ tr pool s → env s s' →
      Run H env pool₀ s₀ tr pool s'
  | call {tr pool s s' i c k r} : Run H env pool₀ s₀ tr pool s →
      pool i = .call c k → H.step c s r s' →
      Run H env pool₀ s₀ (tr ++ [⟨i, c, r, s, s'⟩]) (Function.update pool i (k r)) s'

section parallel

variable [DecidableEq ι] {H : Host Call Ans ε σ} {env : σ → σ → Prop}
  {pool₀ pool : ι → Program Call Ans ε α} {s₀ s : σ} {tr : List (Event Call Ans ε σ ι)}
  {R G : ι → σ → σ → Prop} {Q : ι → Except ε α → σ → Prop}

/-- The parallel rule: when every thread's guarantee and the environment are within every other
thread's R, all threads keep their preconditions. -/
theorem Run.rg (hrefl : ∀ i t, R i t t)
    (htr : ∀ i a b c, R i a b → R i b c → R i a c)
    (henv : ∀ i a b, env a b → R i a b)
    (hguar : ∀ i j, j ≠ i → ∀ a b, G j a b → R i a b)
    (h₀ : ∀ i, (pool₀ i).Rg H (R i) (G i) (Q i) s₀)
    (hrun : Run H env pool₀ s₀ tr pool s) :
    (∀ i, (pool i).Rg H (R i) (G i) (Q i) s) ∧ ∀ e ∈ tr, G e.thread e.pre e.post := by
  induction hrun with
  | start => exact ⟨h₀, fun e he => by cases he⟩
  | env _ hs ih => exact ⟨fun i => (ih.1 i).of_rely (htr i) (henv i _ _ hs), ih.2⟩
  | @call tr pool s s' i c k r _ hi hs ih =>
      have hcall : Program.Rg H (R i) (G i) (.call c k) (Q i) s := hi ▸ ih.1 i
      obtain ⟨hg, hk⟩ := hcall s (hrefl i s) r s' hs
      refine ⟨fun j => ?_, fun e he => ?_⟩
      · by_cases hj : j = i
        · subst hj; simpa using hk
        · rw [Function.update_of_ne hj]
          exact (ih.1 j).of_rely (htr j) (hguar j i (Ne.symm hj) _ _ hg)
      · rcases List.mem_append.mp he with he | he
        · exact ih.2 e he
        · rw [List.mem_singleton.mp he]; exact hg

/-- An assertion that the initial state satisfies and every guarantee and environment step
preserves holds in every reachable state. -/
theorem Run.invariant {I : σ → Prop} (hrefl : ∀ i t, R i t t)
    (htr : ∀ i a b c, R i a b → R i b c → R i a c)
    (henv : ∀ i a b, env a b → R i a b)
    (hguar : ∀ i j, j ≠ i → ∀ a b, G j a b → R i a b)
    (h₀ : ∀ i, (pool₀ i).Rg H (R i) (G i) (Q i) s₀)
    (hI₀ : I s₀) (hIenv : ∀ a b, env a b → I a → I b)
    (hIguar : ∀ i a b, G i a b → I a → I b)
    (hrun : Run H env pool₀ s₀ tr pool s) : I s := by
  induction hrun with
  | start => exact hI₀
  | env _ hs ih => exact hIenv _ _ hs ih
  | @call tr pool s s' i c k r hrun hi hs ih =>
      have hcall : Program.Rg H (R i) (G i) (.call c k) (Q i) s :=
        hi ▸ (Run.rg hrefl htr henv hguar h₀ hrun).1 i
      exact hIguar i _ _ (hcall s (hrefl i s) r s' hs).1 ih

/-- An assertion that the environment keeps, and every call the programs make, holds in every state
reached with the expected answers. -/
theorem Run.callsOn_invariant {A : ι → (c : Call) → Except ε (Ans c) → Prop} {P : Call → Prop}
    {I : σ → Prop} (hcalls : ∀ i, (pool₀ i).CallsOn (A i) P) (henv : ∀ a b, env a b → I a → I b)
    (hstep : ∀ c a r b, P c → H.step c a r b → I a → I b) (hI : I s₀)
    (hrun : Run H env pool₀ s₀ tr pool s) (htr : ∀ e ∈ tr, A e.thread e.call e.answer) :
    (∀ i, (pool i).CallsOn (A i) P) ∧ I s := by
  induction hrun with
  | start => exact ⟨hcalls, hI⟩
  | env _ hs ih =>
      obtain ⟨hpool, hI⟩ := ih htr
      exact ⟨hpool, henv _ _ hs hI⟩
  | @call tr pool s s' i c k r _ hi hs ih =>
      obtain ⟨hpool, hI⟩ := ih fun e he => htr e (List.mem_append_left _ he)
      have hanswer : A i c r := htr _ (List.mem_append_right _ List.mem_cons_self)
      have hcall : (Program.call c k : Program Call Ans ε α).CallsOn (A i) P := hi ▸ hpool i
      refine ⟨fun j => ?_, hstep c s r s' hcall.1 hs hI⟩
      by_cases hj : j = i
      · subst hj
        rw [Function.update_self]
        exact hcall.2 r hanswer
      · rw [Function.update_of_ne hj]
        exact hpool j

/-- A run whose calls all meet a condition is a run of the host restricted to it. -/
theorem Run.when {ok : Call → σ → Prop} (h : Run H env pool₀ s₀ tr pool s)
    (hok : ∀ e ∈ tr, ok e.call e.pre) : Run (H.when ok) env pool₀ s₀ tr pool s := by
  induction h with
  | start => exact .start
  | env _ hs ih => exact (ih hok).env hs
  | call _ hi hs ih =>
      exact (ih fun e he => hok e (List.mem_append_left _ he)).call hi
        ⟨hok _ (List.mem_append_right _ (List.mem_singleton_self _)), hs⟩

/-- Runs compose. -/
theorem Run.append {tr' : List (Event Call Ans ε σ ι)} {pool' : ι → Program Call Ans ε α} {s' : σ}
    (h : Run H env pool₀ s₀ tr pool s) (h' : Run H env pool s tr' pool' s') :
    Run H env pool₀ s₀ (tr ++ tr') pool' s' := by
  induction h' with
  | start => rwa [List.append_nil]
  | env _ hs ih => exact ih.env hs
  | call _ hi hs ih => rw [← List.append_assoc]; exact ih.call hi hs

/-- Let the listed threads make their calls, on a host given by a function. -/
def Run.schedule (h : (c : Call) → σ → Except ε (Ans c) × σ) :
    List ι → (ι → Program Call Ans ε α) → σ →
      List (Event Call Ans ε σ ι) × (ι → Program Call Ans ε α) × σ
  | [], pool, s => ([], pool, s)
  | i :: is, pool, s =>
      match pool i with
      | .call c k =>
          let rest := Run.schedule h is (Function.update pool i (k (h c s).1)) (h c s).2
          (⟨i, c, (h c s).1, s, (h c s).2⟩ :: rest.1, rest.2)
      | _ => Run.schedule h is pool s

/-- A schedule is a run of a host that can answer as the function does. -/
theorem Run.of_schedule {h : (c : Call) → σ → Except ε (Ans c) × σ}
    (hH : ∀ c s, H.step c s (h c s).1 (h c s).2) (is : List ι) (pool : ι → Program Call Ans ε α)
    (s : σ) : Run H env pool s (Run.schedule h is pool s).1 (Run.schedule h is pool s).2.1
      (Run.schedule h is pool s).2.2 := by
  induction is generalizing pool s with
  | nil => exact .start
  | cons i is ih =>
      cases hi : pool i with
      | done a => rw [Run.schedule, hi]; exact ih pool s
      | raise e => rw [Run.schedule, hi]; exact ih pool s
      | call c k =>
          rw [Run.schedule, hi]
          exact (Run.start.call hi (hH c s)).append (ih _ _)

end parallel

/-! ### One program in its environment -/

section single

variable {H : Host Call Ans ε σ} {env rely guar : σ → σ → Prop} {p : Program Call Ans ε α}
  {s s' : σ} {tr : List (Event Call Ans ε σ Unit)} {Q : Except ε α → σ → Prop}

/-- The states one program reaches, with the trace of its calls. -/
def Program.Reaches (H : Host Call Ans ε σ) (env : σ → σ → Prop) (p : Program Call Ans ε α) (s : σ)
    (tr : List (Event Call Ans ε σ Unit)) (s' : σ) : Prop :=
  ∃ pool, Run H env (fun _ : Unit => p) s tr pool s'

theorem Program.Reaches.when {ok : Call → σ → Prop} (h : p.Reaches H env s tr s')
    (hok : ∀ e ∈ tr, ok e.call e.pre) : p.Reaches (H.when ok) env s tr s' :=
  let ⟨pool, hrun⟩ := h
  ⟨pool, hrun.when hok⟩

theorem Program.Reaches.guarantee (hrefl : ∀ t, rely t t) (htr : ∀ a b c, rely a b → rely b c → rely a c)
    (henv : ∀ a b, env a b → rely a b) (hp : p.Rg H rely guar Q s)
    (h : p.Reaches H env s tr s') : ∀ e ∈ tr, guar e.pre e.post := by
  obtain ⟨pool, hrun⟩ := h
  exact (Run.rg (R := fun _ => rely) (G := fun _ => guar) (Q := fun _ => Q) (fun _ => hrefl)
    (fun _ => htr) (fun _ => henv) (fun _ _ hne => absurd rfl hne) (fun _ => hp) hrun).2

theorem Run.first {c : Call} {k : Except ε (Ans c) → Program Call Ans ε α} {r : Except ε (Ans c)}
    {s₁ s₂ : σ} (h : Run H env (fun _ : Unit => Program.call c k) s [] (fun _ => .call c k) s₁)
    (hc : H.step c s₁ r s₂) :
    Run H env (fun _ : Unit => Program.call c k) s [⟨(), c, r, s₁, s₂⟩] (fun _ => k r) s₂ := by
  have hcall := h.call (i := ()) rfl hc
  have hrest : Function.update (fun _ : Unit => Program.call c k) () (k r) = fun _ => k r :=
    funext fun _ => Function.update_self ..
  rwa [hrest] at hcall

/-- A guarantee that every reached trace meets can be proved by the rules. -/
theorem Program.rg_of_reaches (h : ∀ tr s', p.Reaches H env s tr s' → ∀ e ∈ tr, guar e.pre e.post) :
    p.Rg H env guar (fun _ _ => True) s := by
  induction p generalizing s with
  | done a => exact fun _ _ => trivial
  | raise e => exact fun _ _ => trivial
  | call c k ih =>
      intro t ht r t' hc
      have hfirst := (Run.start.env ht).first (k := k) hc
      refine ⟨h _ t' ⟨_, hfirst⟩ _ List.mem_cons_self, ih r fun tr s' hreach e he => ?_⟩
      obtain ⟨pool, hrun⟩ := hreach
      exact h _ s' ⟨pool, hfirst.append hrun⟩ e (List.mem_append_right _ he)

/-- What the guarantee and the environment keep holds in every state the program reaches. -/
theorem Program.Reaches.invariant {I : σ → Prop} (hrefl : ∀ t, rely t t)
    (htr : ∀ a b c, rely a b → rely b c → rely a c) (henv : ∀ a b, env a b → rely a b)
    (hp : p.Rg H rely guar Q s) (hI : I s) (hIenv : ∀ a b, env a b → I a → I b)
    (hIguar : ∀ a b, guar a b → I a → I b) (h : p.Reaches H env s tr s') : I s' := by
  obtain ⟨pool, hrun⟩ := h
  exact Run.invariant (R := fun _ => rely) (G := fun _ => guar) (Q := fun _ => Q)
    (fun _ => hrefl) (fun _ => htr) (fun _ => henv) (fun _ _ hne => absurd rfl hne) (fun _ => hp) hI
    hIenv (fun _ => hIguar) hrun

/-- The calls a program makes alone on a host given by a function. -/
def Program.trace (h : (c : Call) → σ → Except ε (Ans c) × σ) :
    Program Call Ans ε α → σ → List (Event Call Ans ε σ Unit)
  | .done _, _ => []
  | .raise _, _ => []
  | .call c k, s => ⟨(), c, (h c s).1, s, (h c s).2⟩ :: (k (h c s).1).trace h (h c s).2

/-- Evaluation is one of the runs of a host that can answer as the function does. -/
theorem Program.reaches_trace {h : (c : Call) → σ → Except ε (Ans c) × σ}
    (hH : ∀ c s, H.step c s (h c s).1 (h c s).2) (p : Program Call Ans ε α) (s : σ) :
    p.Reaches H env s (p.trace h s) (p.eval h s).2 := by
  induction p generalizing s with
  | done a => exact ⟨_, .start⟩
  | raise e => exact ⟨_, .start⟩
  | call c k ih =>
      obtain ⟨pool, hrun⟩ := ih (h c s).1 (h c s).2
      exact ⟨pool, (Run.start.first (k := k) (hH c s)).append hrun⟩

/-- The program may end with a result, in a state. -/
inductive Program.Ends (H : Host Call Ans ε σ) (env : σ → σ → Prop) :
    Program Call Ans ε α → σ → Except ε α → σ → Prop
  | done {a s} : Ends H env (.done a) s (.ok a) s
  | raise {e s} : Ends H env (.raise e) s (.error e) s
  | env {p s s₁ r s'} : env s s₁ → Ends H env p s₁ r s' → Ends H env p s r s'
  | call {c k s r₁ s₁ r s'} : H.step c s r₁ s₁ → Ends H env (k r₁) s₁ r s' →
      Ends H env (.call c k) s r s'

/-- The postcondition of the rules holds at every end. -/
theorem Program.Ends.post (hrefl : ∀ t, rely t t) (htr : ∀ a b c, rely a b → rely b c → rely a c)
    (henv : ∀ a b, env a b → rely a b) {r : Except ε α} (h : p.Ends H env s r s')
    (hp : p.Rg H rely guar Q s) : Q r s' := by
  induction h with
  | done => exact hp _ (hrefl _)
  | raise => exact hp _ (hrefl _)
  | env hs _ ih => exact ih (hp.of_rely htr (henv _ _ hs))
  | call hc _ ih => exact ih (hp _ (hrefl _) _ _ hc).2

theorem Program.Ends.of_host {H' : Host Call Ans ε σ} {r : Except ε α} (h : p.Ends H' env s r s')
    (hsub : ∀ c s₁ r s₂, H'.step c s₁ r s₂ → H.step c s₁ r s₂) : p.Ends H env s r s' := by
  induction h with
  | done => exact .done
  | raise => exact .raise
  | env hs _ ih => exact .env hs ih
  | call hc _ ih => exact .call (hsub _ _ _ _ hc) ih

theorem Program.ends_eval (env : σ → σ → Prop) {h : (c : Call) → σ → Except ε (Ans c) × σ}
    (hH : ∀ c s, H.step c s (h c s).1 (h c s).2) (p : Program Call Ans ε α) (s : σ) :
    p.Ends H env s (p.eval h s).1 (p.eval h s).2 := by
  induction p generalizing s with
  | done a => exact .done
  | raise e => exact .raise
  | call c k ih => exact .call (hH c s) (ih (h c s).1 (h c s).2)

theorem Program.ends_of_isOk (env : σ → σ → Prop) {h : (c : Call) → σ → Except ε (Ans c) × σ}
    (hH : ∀ c s, H.step c s (h c s).1 (h c s).2) (hok : (p.eval h s).1.isOk = true) :
    ∃ a, p.Ends H env s (.ok a) (p.eval h s).2 := by
  have hends := Program.ends_eval env hH p s
  cases hr : (p.eval h s).1 with
  | error e => rw [hr] at hok; cases hok
  | ok a => exact ⟨a, hr ▸ hends⟩

theorem Program.Ends.bind {f : α → Program Call Ans ε β} {a : α} {r : Except ε β} {s'' : σ}
    (hp : p.Ends H env s (.ok a) s') (hf : (f a).Ends H env s' r s'') :
    (p.bind f).Ends H env s r s'' := by
  generalize hr : (Except.ok a : Except ε α) = r₁ at hp
  induction hp with
  | done => cases hr; exact hf
  | raise => cases hr
  | env hs _ ih => exact .env hs (ih hf hr)
  | call hc _ ih => exact .call hc (ih hf hr)

end single

end Interaction
