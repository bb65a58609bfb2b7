import MotorCove.Async

/-!
# Triples for programs that wait

A discipline says what a program may do in passing, what a whole act may do,
and what holds whenever it waits. A triple says that a program keeps to it from
every state of its precondition and ends in its postcondition. Assertions are
stable: others do not make them false. Nothing here depends on the states, the
requests or the programs.
-/

set_option autoImplicit false

namespace MotorCove.Asynchrony
open MotorCove.Histories

/-- Up to an await only what is quiet has been done. A whole act is granted,
ends in the invariant and waits only as permitted. -/
structure Discipline {Req : Type} {Ans : Req → Type} {μ : Type} (E : Surroundings Ans μ)
    (σ : Type) where
  rely : σ → σ → Prop
  inv : σ → Prop
  quiet : σ → σ → Prop
  grants : σ → σ → Prop
  permits : Req → σ → Prop
  rely_inv : ∀ {a b}, inv a → rely a b → inv b
  quiet_refl : ∀ a, quiet a a
  quiet_trans : ∀ {a b c}, quiet a b → quiet b c → quiet a c
  quiet_grants : ∀ {a b}, quiet a b → grants a b

section
variable {Req : Type} {Ans : Req → Type} {ε μ σ α β : Type} {E : Surroundings Ans μ}
  (D : Discipline E σ)

/-- How an act may end. -/
def Discipline.ends (Q : α → σ → Prop) (F : ε → σ → Prop) :
    Async Ans ε μ σ α → σ → σ → Prop
  | .done a, start, s => D.quiet start s ∧ D.inv s ∧ Q a s
  | .fail error, start, s => D.quiet start s ∧ D.inv s ∧ F error s
  | .await r _, start, s => D.grants start s ∧ D.inv s ∧ D.permits r s
  | .sync _ _, _, _ => False

/-- From every state of `P` the program keeps to the discipline, and leads to `Q`
or throws into `F`. -/
def Triple (P : σ → Prop) (x : Async Ans ε μ σ α) (Q : α → σ → Prop) (F : ε → σ → Prop) : Prop :=
  ∀ start s, D.quiet start s → D.inv s → P s → Keeps E D.rely (D.ends Q F) x start s

/-- Others do not make it false. -/
def Discipline.Stable (P : σ → Prop) : Prop := ∀ a b, D.inv a → D.rely a b → P a → P b

variable {D} {P P' : σ → Prop} {Q Q' M : α → σ → Prop} {F F' : ε → σ → Prop}
  {x : Async Ans ε μ σ α}

theorem Discipline.Stable.and {P₁ P₂ : σ → Prop} (h₁ : D.Stable P₁) (h₂ : D.Stable P₂) :
    D.Stable fun s => P₁ s ∧ P₂ s :=
  fun a b ha hr h => ⟨h₁ a b ha hr h.1, h₂ a b ha hr h.2⟩

theorem stable_const {p : Prop} : D.Stable fun _ => p := fun _ _ _ _ h => h

theorem Triple.weaken (h : Triple D P x Q F) (hP : ∀ s, D.inv s → P' s → P s)
    (hQ : ∀ a s, D.inv s → Q a s → Q' a s) (hF : ∀ e s, D.inv s → F e s → F' e s) :
    Triple D P' x Q' F' := by
  intro start s hquiet hinv hpre
  apply (h start s hquiet hinv (hP s hinv hpre)).mono
  intro x start s hend
  cases x with
  | done a => exact ⟨hend.1, hend.2.1, hQ a s hend.2.1 hend.2.2⟩
  | fail error => exact ⟨hend.1, hend.2.1, hF error s hend.2.1 hend.2.2⟩
  | await r next => exact hend
  | sync change next => exact hend

theorem Triple.pre (h : Triple D P x Q F) (hP : ∀ s, D.inv s → P' s → P s) :
    Triple D P' x Q F := h.weaken hP (fun _ _ _ h => h) fun _ _ _ h => h

theorem Triple.post (h : Triple D P x Q F) (hQ : ∀ a s, D.inv s → Q a s → Q' a s) :
    Triple D P x Q' F := h.weaken (fun _ _ h => h) hQ fun _ _ _ h => h

theorem Triple.assume {p : Prop} (h : p → Triple D P x Q F) :
    Triple D (fun s => p ∧ P s) x Q F :=
  fun start s hquiet hinv hpre => h hpre.1 start s hquiet hinv hpre.2

theorem keeps_bind_ends {f : α → Async Ans ε μ σ β} {Q : β → σ → Prop} {start s : σ}
    (hx : Keeps E D.rely (D.ends M F) x start s) (hf : ∀ a, Triple D (M a) (f a) Q F) :
    Keeps E D.rely (D.ends Q F) (x >>= f) start s := by
  induction x generalizing start s with
  | done a => exact hf a start s hx.1 hx.2.1 hx.2.2
  | fail error => exact hx
  | sync change next ih => exact fun m hm => ih m s (hx m hm)
  | await r next ih =>
    exact ⟨hx.1, fun s' hs' answer hanswer => ih answer (hx.2 s' hs' answer hanswer)⟩

theorem Triple.bind {f : α → Async Ans ε μ σ β} {Q : β → σ → Prop} (hx : Triple D P x M F)
    (hf : ∀ a, Triple D (M a) (f a) Q F) : Triple D P (x >>= f) Q F :=
  fun start s hquiet hinv hpre => keeps_bind_ends (hx start s hquiet hinv hpre) hf

theorem keeps_tryCatch_ends {handle : ε → Async Ans ε μ σ α} {start s : σ}
    (hx : Keeps E D.rely (D.ends Q F') x start s) (hh : ∀ e, Triple D (F' e) (handle e) Q F) :
    Keeps E D.rely (D.ends Q F) (tryCatch x handle) start s := by
  induction x generalizing start s with
  | done a => exact hx
  | fail error => exact hh error start s hx.1 hx.2.1 hx.2.2
  | sync change next ih => exact fun m hm => ih m s (hx m hm)
  | await r next ih =>
    exact ⟨hx.1, fun s' hs' answer hanswer => ih answer (hx.2 s' hs' answer hanswer)⟩

theorem Triple.tryCatch {handle : ε → Async Ans ε μ σ α} (hx : Triple D P x Q F')
    (hh : ∀ e, Triple D (F' e) (handle e) Q F) : Triple D P (tryCatch x handle) Q F :=
  fun start s hquiet hinv hpre => keeps_tryCatch_ends (hx start s hquiet hinv hpre) hh

theorem Triple.pure {a : α} (h : ∀ s, D.inv s → P s → Q a s) :
    Triple D P (pure a : Async Ans ε μ σ α) Q F :=
  fun _ s hquiet hinv hpre => ⟨hquiet, hinv, h s hinv hpre⟩

theorem Triple.throw {e : ε} (h : ∀ s, D.inv s → P s → F e s) :
    Triple D P (throw e : Async Ans ε μ σ α) Q F :=
  fun _ s hquiet hinv hpre => ⟨hquiet, hinv, h s hinv hpre⟩

theorem Triple.access {f : μ → σ → α × σ} (h : ∀ m s, E.moments m → D.inv s → P s →
      D.quiet s (f m s).2 ∧ D.inv (f m s).2 ∧ Q (f m s).1 (f m s).2) :
    Triple D P (Async.access f : Async Ans ε μ σ α) Q F := by
  intro start s hquiet hinv hpre m hm
  obtain ⟨hq, hi, hpost⟩ := h m s hm hinv hpre
  exact ⟨D.quiet_trans hquiet hq, hi, hpost⟩

theorem Triple.attempt {f : μ → σ → Except ε α × σ} (h : ∀ m s, E.moments m → D.inv s → P s →
      D.quiet s (f m s).2 ∧ D.inv (f m s).2 ∧ (∀ a, (f m s).1 = .ok a → Q a (f m s).2) ∧
        ∀ e, (f m s).1 = .error e → F e (f m s).2) :
    Triple D P (Async.attempt f : Async Ans ε μ σ α) Q F := by
  intro start s hquiet hinv hpre m hm
  obtain ⟨hq, hi, hok, herror⟩ := h m s hm hinv hpre
  have hdone := D.quiet_trans hquiet hq
  cases hresult : (f m s).1 with
  | ok a =>
    simp only [hresult]
    exact ⟨hdone, hi, hok a hresult⟩
  | error e =>
    simp only [hresult]
    exact ⟨hdone, hi, herror e hresult⟩

theorem Triple.request {r : Req} {Q : Ans r → σ → Prop} (hP : D.Stable P)
    (hpermits : ∀ s, D.inv s → P s → D.permits r s)
    (hQ : ∀ a s, E.answers r a → D.inv s → P s → Q a s) :
    Triple D P (Async.request r : Async Ans ε μ σ (Ans r)) Q F := by
  intro start s hquiet hinv hpre
  refine ⟨⟨D.quiet_grants hquiet, hinv, hpermits s hinv hpre⟩, fun s' hs' answer hanswer => ?_⟩
  have hinv' := D.rely_inv hinv hs'
  exact ⟨D.quiet_refl s', hinv', hQ answer s' hanswer hinv' (hP s s' hinv hs' hpre)⟩

theorem Triple.caught (hx : Triple D P x Q F) :
    Triple D P (Async.caught x) (fun outcome s => (∀ a, outcome = .ok a → Q a s) ∧
      ∀ error, outcome = .error error → F error s) F' := by
  refine Triple.tryCatch (hx.bind fun a => ?_) fun error => ?_
  · apply Triple.pure
    intro s _ hQ
    refine ⟨?_, ?_⟩
    · rintro _ ⟨⟩
      exact hQ
    · rintro _ ⟨⟩
  · apply Triple.pure
    intro s _ hF
    refine ⟨?_, ?_⟩
    · rintro _ ⟨⟩
    · rintro _ ⟨⟩
      exact hF

theorem Triple.awaited {r : Req} (hx : Triple D P x Q F) (hQ : ∀ a, D.Stable (Q a))
    (hF : ∀ e, D.Stable (F e)) (hpermits : ∀ s, D.permits r s) :
    Triple D P (Async.awaited r x) Q F := by
  refine Triple.tryCatch (hx.bind fun a => ?_) fun error => ?_
  · apply (Triple.request (hQ a) (fun s _ _ => hpermits s) fun _ _ _ _ h => h).bind
    intro _
    exact Triple.pure fun _ _ h => h
  · apply (Triple.request (hF error) (fun s _ _ => hpermits s) fun _ _ _ _ h => h).bind
    intro _
    exact Triple.throw fun _ _ h => h

theorem Triple.exchange {r₁ r₂ : Req} {f : μ → σ → α × σ} (hP : D.Stable P)
    (hQ : ∀ a, D.Stable (Q a)) (hpermits₁ : ∀ s, D.permits r₁ s) (hpermits₂ : ∀ s, D.permits r₂ s)
    (hact : ∀ m s, E.moments m → D.inv s → P s →
      D.grants s (f m s).2 ∧ D.inv (f m s).2 ∧ Q (f m s).1 (f m s).2) :
    Triple D P (Async.request r₁ >>= fun _ => Async.access f >>= fun a =>
      Async.request r₂ >>= fun _ => (Pure.pure a : Async Ans ε μ σ α)) Q F := by
  intro start s hquiet hinv hpre
  refine ⟨⟨D.quiet_grants hquiet, hinv, hpermits₁ s⟩, fun s₁ hs₁ _ _ m hm => ?_⟩
  have hinv₁ := D.rely_inv hinv hs₁
  obtain ⟨hgrants, hinv₂, hpost⟩ := hact m s₁ hm hinv₁ (hP s s₁ hinv hs₁ hpre)
  refine ⟨⟨hgrants, hinv₂, hpermits₂ _⟩, fun s₃ hs₃ _ _ => ?_⟩
  exact ⟨D.quiet_refl s₃, D.rely_inv hinv₂ hs₃, hQ _ _ _ hinv₂ hs₃ hpost⟩

variable (D) in
/-- What an act of a program that keeps to the discipline promises. -/
def Discipline.promises (x : Async Ans ε μ σ α) (a b : σ) : Prop :=
  D.grants a b ∧ D.inv b ∧ ∀ r next, x = .await r next → D.permits r b

theorem Discipline.ends_promises {x : Async Ans ε μ σ α} {start s : σ}
    (h : D.ends Q F x start s) : D.promises x start s := by
  cases x with
  | done a => exact ⟨D.quiet_grants h.1, h.2.1, fun _ _ h => by cases h⟩
  | fail error => exact ⟨D.quiet_grants h.1, h.2.1, fun _ _ h => by cases h⟩
  | await r next =>
    refine ⟨h.1, h.2.1, ?_⟩
    rintro _ _ ⟨⟩
    exact h.2.2
  | sync change next => exact h.elim

theorem Keeps.waits {R : σ → σ → Prop} {P : Async Ans ε μ σ α → σ → σ → Prop} {start s : σ}
    (h : Keeps E R P x start s) : Waits E R P x s := by
  cases x with
  | await r next => exact h.2
  | done a => trivial
  | fail error => trivial
  | sync change next => trivial

theorem Triple.waits (h : Triple D P x Q F) {s : σ} (hinv : D.inv s) (hP : P s) :
    Waits E D.rely D.promises x s :=
  ((h s s (D.quiet_refl s) hinv hP).waits).mono fun _ _ _ => D.ends_promises

end

variable {Req : Type} {Ans : Req → Type} {ε μ σ τ α π ι : Type}

/-- What the acts of each program are, the others rely on. -/
structure Regime (S : System Ans μ σ π ι) (τ : Type) where
  discipline : π → Discipline S.toSurroundings (σ × τ)
  refl : ∀ p a, (discipline p).rely a a
  trans : ∀ p a b c, (discipline p).rely a b → (discipline p).rely b c → (discipline p).rely a c
  near : ∀ p q, p ≠ q → S.home p = S.home q → ∀ a b, (discipline p).grants a b →
    (discipline p).inv b → (discipline q).rely a b
  far : ∀ p q, S.home p ≠ S.home q → ∀ a b, (discipline p).grants a b →
    (discipline p).inv b → ∀ d, (discipline q).rely (a.1, d) (b.1, d)
  close : ∀ i q, i ≠ S.home q → ∀ a, (discipline q).rely a (S.onClose i a.1, a.2)

def Regime.contract {S : System Ans μ σ π ι} (G : Regime S τ) : Contract S ε τ α where
  rely p := (G.discipline p).rely
  promises p := (G.discipline p).promises
  refl := G.refl
  trans := G.trans
  near := fun p q hne hhome _ a b h => G.near p q hne hhome a b h.1 h.2.1
  far := fun p q hhome _ a b h => G.far p q hhome a b h.1 h.2.1
  close := G.close

theorem Regime.holds {S : System Ans μ σ π ι} (G : Regime S τ) {w : World Ans ε μ σ τ α π ι}
    (h : ∀ p, ∃ P Q F, Triple (G.discipline p) P (w.left p) Q F ∧
      (G.discipline p).inv (w.view S p) ∧ P (w.view S p)) : G.contract.Holds w := by
  intro p _
  obtain ⟨P, Q, F, htriple, hinv, hP⟩ := h p
  exact htriple.waits hinv hP

end MotorCove.Asynchrony
