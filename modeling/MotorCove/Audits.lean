import MotorCove.Effects

/-!
# Programs that list what they find

A program in `EStateM` reads from elsewhere, any read may fail, and appends
what it finds to a list of its state. `Audits` states that such a program ends
exactly when its reads succeed, and which findings its list holds in the end,
whether or not a read failed. Nothing here depends on what is read or found.
-/

set_option autoImplicit false

namespace MotorCove.Effects

variable {ε σ δ κ α β : Type}

def answer : Except ε α → EStateM ε σ α
  | .ok a => pure a
  | .error e => throw e

@[simp] theorem ends_answer_ok {a : α} {s : σ} {P : α → σ → Prop} {E : ε → σ → Prop} :
    Ends (answer (.ok a)) s P E ↔ P a s := Iff.rfl

@[simp] theorem ends_answer_error {e : ε} {s : σ} {P : α → σ → Prop} {E : ε → σ → Prop} :
    Ends (answer (.error e)) s P E ↔ E e s := Iff.rfl

def throwIf (c : Prop) [Decidable c] (e : ε) : EStateM ε σ Unit :=
  if c then throw e else pure ()

/-- The list of `t` is that of `s` and, after it, the findings that `finds` tells;
a part of the state is left alone. -/
structure Grows (log : σ → List δ) (part : σ → κ) (finds : δ → Prop) (s t : σ) : Prop where
  findings : ∃ found, log t = log s ++ found ∧ ∀ d, d ∈ found ↔ finds d
  part : part t = part s

def Audits (log : σ → List δ) (part : σ → κ) (x : EStateM ε σ α) (reads : Prop)
    (finds : δ → Prop) : Prop :=
  ∀ s, Ends x s (fun _ t => Grows log part finds s t ∧ reads)
    fun _ t => Grows log part finds s t ∧ ¬reads

variable {log : σ → List δ} {part : σ → κ} {reads reads' : Prop} {finds finds' : δ → Prop}

theorem Grows.of_same {s t : σ} (h : log t = log s) (hpart : part t = part s)
    (hnone : ∀ d, ¬finds d) : Grows log part finds s t :=
  ⟨⟨[], by rw [h, List.append_nil], fun d => by simp [hnone d]⟩, hpart⟩

theorem Grows.congr {s t : σ} (h : Grows log part finds s t) (hfinds : ∀ d, finds d ↔ finds' d) :
    Grows log part finds' s t := by
  obtain ⟨found, hfound, hmem⟩ := h.findings
  exact ⟨⟨found, hfound, fun d => (hmem d).trans (hfinds d)⟩, h.part⟩

theorem Grows.trans {s t u : σ} (h : Grows log part finds s t) (h' : Grows log part finds' t u) :
    Grows log part (fun d => finds d ∨ finds' d) s u := by
  obtain ⟨found, hfound, hmem⟩ := h.findings
  obtain ⟨found', hfound', hmem'⟩ := h'.findings
  refine ⟨⟨found ++ found', ?_, fun d => ?_⟩, h'.part.trans h.part⟩
  · rw [hfound', hfound, List.append_assoc]
  · rw [List.mem_append, hmem, hmem']

theorem Audits.congr {x : EStateM ε σ α} (h : Audits log part x reads finds)
    (hreads : reads ↔ reads') (hfinds : ∀ d, finds d ↔ finds' d) :
    Audits log part x reads' finds' := by
  intro s
  refine (h s).mono (fun a t ht => ?_) fun e t ht => ?_
  · exact ⟨ht.1.congr hfinds, hreads.mp ht.2⟩
  · exact ⟨ht.1.congr hfinds, fun hr => ht.2 (hreads.mpr hr)⟩

theorem audits_pure (a : α) :
    Audits log part (pure a : EStateM ε σ α) True fun _ => False := by
  intro s
  exact ⟨.of_same rfl rfl fun _ => id, trivial⟩

theorem audits_modify {f : σ → σ} (h : ∀ s, log (f s) = log s) (hpart : ∀ s, part (f s) = part s) :
    Audits log part (modify f : EStateM ε σ Unit) True fun _ => False := by
  intro s
  exact ⟨.of_same (h s) (hpart s) fun _ => id, trivial⟩

theorem audits_record {f : σ → σ} {found : List δ} (h : ∀ s, log (f s) = log s ++ found)
    (hpart : ∀ s, part (f s) = part s) :
    Audits log part (modify f : EStateM ε σ Unit) True (· ∈ found) := by
  intro s
  exact ⟨⟨⟨found, h s, fun _ => Iff.rfl⟩, hpart s⟩, trivial⟩

theorem audits_throwIf {c : Prop} [Decidable c] (e : ε) :
    Audits log part (throwIf c e : EStateM ε σ Unit) (¬c) fun _ => False := by
  intro s
  unfold throwIf
  split
  · rename_i hc
    exact ⟨.of_same rfl rfl fun _ => id, fun hn => hn hc⟩
  · rename_i hc
    exact ⟨.of_same rfl rfl fun _ => id, hc⟩

/-- What follows a program finds something only if the program ended. -/
theorem audits_seq {x : EStateM ε σ α} {y : EStateM ε σ β}
    (hx : Audits log part x reads finds) (hy : Audits log part y reads' finds') :
    Audits log part (x >>= fun _ => y) (reads ∧ reads') fun d => finds d ∨ reads ∧ finds' d := by
  intro s
  rw [ends_bind]
  refine (hx s).mono (fun a t ht => ?_) fun e t ht => ?_
  · obtain ⟨hgrows, hreads⟩ := ht
    refine (hy t).mono (fun b u hu => ⟨?_, hreads, hu.2⟩) fun e u hu => ⟨?_, fun h => hu.2 h.2⟩
    · exact (hgrows.trans hu.1).congr fun d => by simp [hreads]
    · exact (hgrows.trans hu.1).congr fun d => by simp [hreads]
  · obtain ⟨hgrows, hreads⟩ := ht
    exact ⟨hgrows.congr fun d => by simp [hreads], fun h => hreads h.1⟩

theorem audits_answer {x : Except ε α} {f : α → EStateM ε σ β} {R : α → Prop} {F : α → δ → Prop}
    (h : ∀ a, x = .ok a → Audits log part (f a) (R a) (F a)) :
    Audits log part (answer x >>= f) (∃ a, x = .ok a ∧ R a) fun d => ∃ a, x = .ok a ∧ F a d := by
  intro s
  rw [ends_bind]
  cases x with
  | error e =>
    refine ⟨.of_same rfl rfl ?_, ?_⟩
    · rintro d ⟨_, ⟨⟩, _⟩
    · rintro ⟨_, ⟨⟩, _⟩
  | ok a =>
    have hfinds : ∀ d, F a d ↔ ∃ b, (Except.ok a : Except ε α) = .ok b ∧ F b d := by
      simp
    refine (h a rfl s).mono (fun b t ht => ⟨ht.1.congr hfinds, a, rfl, ht.2⟩) fun e t ht => ?_
    refine ⟨ht.1.congr hfinds, ?_⟩
    rintro ⟨_, ⟨⟩, ha⟩
    exact ht.2 ha

/-- A round of a loop finds something only if the rounds below it ended, for
rounds in the order of a rank. -/
theorem audits_forM {l : List α} {f : α → EStateM ε σ PUnit} {R : α → Prop} {F : α → δ → Prop}
    (rank : α → Nat) (hsorted : l.Pairwise fun a b => rank a < rank b)
    (h : ∀ a ∈ l, Audits log part (f a) (R a) (F a)) :
    Audits log part (l.forM f) (∀ a ∈ l, R a) fun d =>
      ∃ a ∈ l, (∀ b ∈ l, rank b < rank a → R b) ∧ F a d := by
  induction l with
  | nil => exact (audits_pure PUnit.unit).congr (by simp) fun d => by simp
  | cons a l ih =>
    obtain ⟨habove, hsorted⟩ := List.pairwise_cons.mp hsorted
    have hrest := ih hsorted fun b hb => h b (List.mem_cons_of_mem a hb)
    refine (audits_seq (h a List.mem_cons_self) hrest).congr (by simp) fun d => ?_
    constructor
    · rintro (hfirst | ⟨ha, b, hb, hbelow, hfound⟩)
      · refine ⟨a, List.mem_cons_self, fun c hc hlt => ?_, hfirst⟩
        rcases List.mem_cons.mp hc with rfl | hc
        · exact absurd hlt (Nat.lt_irrefl _)
        · exact absurd hlt (Nat.lt_asymm (habove c hc))
      · exact ⟨b, List.mem_cons_of_mem a hb, List.forall_mem_cons.mpr ⟨fun _ => ha, hbelow⟩, hfound⟩
    · rintro ⟨b, hb, hbelow, hfound⟩
      rcases List.mem_cons.mp hb with rfl | hb
      · exact .inl hfound
      · exact .inr ⟨hbelow a List.mem_cons_self (habove b hb), b, hb,
          fun c hc => hbelow c (List.mem_cons_of_mem a hc), hfound⟩

end MotorCove.Effects
