import MotorCove.Web.RecoveryRuns

/-!
# Submission runs

A submission writes its row, and then the row of the wallet request over it,
before it asks the wallet. What the wallet answers is written over the row that
is there by then.
-/

set_option autoImplicit false

namespace MotorCove.Web
open MotorCove.Asynchrony

namespace Rules
variable {R : Rules} {run : Run} {E : Surroundings Answer Moment}

section
variable {older next : JournalEntry}

theorem Known.writable {s : State} (h : R.Known older s)
    (hid : next.clientOperationId = older.clientOperationId)
    (hdep : next.deploymentId = older.deploymentId) (hversion : next.version = older.version)
    (hreplaces : R.healthy → run.Replaces older next) (hhealthy : R.healthy) :
    IsVolatile s.2 next.clientOperationId ∨ R.Writable run next s.1 := by
  rcases h hhealthy with hvolatile | hstored
  · exact .inl (hid ▸ hvolatile)
  · exact .inr (.inl ⟨older, hid.symm, hdep.symm, hversion.symm, hstored, hreplaces hhealthy⟩)

theorem save_over_triple (hE : R.Fits E) (older next : JournalEntry) (hsound : R.Sound next)
    (hid : next.clientOperationId = older.clientOperationId)
    (hdep : next.deploymentId = older.deploymentId) (hversion : next.version = older.version)
    (hreplaces : R.healthy → run.Replaces older next) :
    Triple (R.discipline run E) (R.Known older) (Async.awaited .settled (save next))
      (R.Saved (fun _ => True) next) (fun _ s => R.Known older s) := by
  apply Triple.awaited
  · apply (save_triple (A := R.Known older) (B := fun _ => True) hE hsound (known_steady older)
      steady_const (fun _ _ => trivial) fun _ _ _ _ _ _ => trivial).weaken
    · exact fun s _ h => ⟨h, h.writable hid hdep hversion hreplaces⟩
    · exact fun _ _ _ h => h
    · exact fun _ _ _ h => h.2
  · exact fun stored => saved_stable steady_const stored
  · exact fun _ => known_stable older
  · intro s h
    cases h

end

section
variable {current : JournalEntry}

theorem mergeWalletOutcome_kept (outcome : WalletRequestOutcome) (outcomeAt : String)
    (current : JournalEntry) :
    (mergeWalletOutcome outcome outcomeAt current).clientOperationId = current.clientOperationId ∧
      (mergeWalletOutcome outcome outcomeAt current).revision = current.revision ∧
      (mergeWalletOutcome outcome outcomeAt current).intent = current.intent ∧
      (mergeWalletOutcome outcome outcomeAt current).evidence = current.evidence := by
  unfold mergeWalletOutcome
  split
  · exact ⟨rfl, rfl, rfl, rfl⟩
  · cases outcome <;> exact ⟨rfl, rfl, rfl, rfl⟩

theorem mergeWalletOutcome_sound (h : R.Sound current) (outcome : WalletRequestOutcome)
    (outcomeAt : String) : R.Sound (mergeWalletOutcome outcome outcomeAt current) := by
  unfold mergeWalletOutcome
  split
  · exact h.congr rfl rfl rfl rfl
  · cases outcome with
    | rejected =>
      exact ⟨h.intent, fun _ => Vouched.of_status (by simp) (by simp),
        fun htraced => (h.confirmed htraced).congr rfl rfl rfl rfl rfl rfl rfl⟩
    | unknown =>
      exact ⟨h.intent, fun _ => Vouched.of_status (by simp) (by simp),
        fun htraced => (h.confirmed htraced).congr rfl rfl rfl rfl rfl rfl rfl⟩

theorem mergeWalletOutcome_replaces (hsubmits : run.task.isRecheck = false)
    (outcome : WalletRequestOutcome) (outcomeAt : String) :
    run.Replaces current (mergeWalletOutcome outcome outcomeAt current) := by
  have hfenced : run.task.isRecheck = true →
      current.verificationRequestId = some run.uuid ∨
        (mergeWalletOutcome outcome outcomeAt current).evidence = current.evidence :=
    fun h => by simp [hsubmits] at h
  have hrevised : Revised run.uuid current _ :=
    (Revision.outcome outcome outcomeAt).revised current
  revert hfenced hrevised
  unfold mergeWalletOutcome
  split
  · intro hfenced hrevised
    exact ⟨⟨rfl, rfl, rfl, fun _ h => h, fun _ h => h, id, id, id, fun _ => rfl⟩, hrevised,
      .inr (.inr ⟨rfl, rfl⟩), hfenced⟩
  · cases outcome <;> intro hfenced hrevised <;>
      exact ⟨⟨rfl, rfl, rfl, fun _ h => h, fun _ h => h, id, id, id, fun _ => rfl⟩, hrevised,
        .inr (.inr ⟨rfl, rfl⟩), hfenced⟩

theorem findWalletRequest_triple (hE : R.Fits E) (awaitingWallet : JournalEntry)
    {F : JsError → State → Prop} :
    Triple (R.discipline run E) (fun _ => True) (Async.access (findWalletRequest awaitingWallet))
      (fun found s => ∀ current, found = some current → R.Current awaitingWallet.deploymentId
        awaitingWallet.clientOperationId current s) F := by
  apply Triple.access
  intro m s hm hinv _
  obtain ⟨hquiet, hinv'⟩ := hE.reads hm hinv awaitingWallet.deploymentId
  refine ⟨hquiet, hinv', fun current hfound => ?_⟩
  simp only [findWalletRequest, Option.filter_eq_some_iff] at hfound
  exact find_current hinv hfound.1

theorem attemptOutcome_triple (hE : R.Fits E) (hsubmits : run.task.isRecheck = false)
    {awaitingWallet : JournalEntry} (hid : awaitingWallet.clientOperationId = run.uuid)
    (outcome : WalletRequestOutcome) (outcomeAt : String) (attempts : ℕ) :
    ∀ current : JournalEntry, R.Sound current → R.Started current →
      current.clientOperationId = run.uuid →
      Triple (R.discipline run E) (R.Known current)
        (attemptOutcome awaitingWallet outcome outcomeAt attempts
          (mergeWalletOutcome outcome outcomeAt current)) (fun _ _ => True)
        (fun _ _ => True) := by
  -- a row that was found becomes a volatile entry of the run's own
  have hvolatile : ∀ found : JournalEntry, R.Sound found → R.Started found →
      found.clientOperationId = run.uuid →
      Triple (R.discipline run E) (fun _ => True)
        (saveVolatile (mergeWalletOutcome outcome outcomeAt found) >>= fun _ =>
          (pure false : Program Bool)) (fun _ _ => True) (fun _ _ => True) := by
    intro found hsound hstarted hown
    obtain ⟨hmergedId, hrevision, -, -⟩ := mergeWalletOutcome_kept outcome outcomeAt found
    apply Triple.bind (M := fun _ _ => True)
    · apply (saveVolatile_triple (A := fun _ => True) steady_const
        (mergeWalletOutcome_sound hsound outcome outcomeAt) ?_
        fun _ => hmergedId.trans hown).weaken
      · exact fun _ _ h => h
      · exact fun _ _ _ _ => trivial
      · exact fun _ _ _ _ => trivial
      · intro hattempt
        rw [JournalEntry.version, hrevision]
        exact hstarted (hmergedId ▸ hattempt)
    · exact fun _ => Triple.pure fun _ _ _ => trivial
  induction attempts with
  | zero =>
    intro current _ _ _
    unfold attemptOutcome
    apply Triple.bind ((findWalletRequest_triple hE awaitingWallet).pre fun _ _ _ => trivial)
    intro found
    cases found with
    | none => exact Triple.pure fun _ _ _ => trivial
    | some found =>
      apply Triple.pre (Triple.assume (p := R.Sound found ∧ R.Started found ∧
        found.clientOperationId = run.uuid) (P := fun _ => True) ?_)
        fun s _ h => ⟨⟨(h found rfl).sound, (h found rfl).started, (h found rfl).id.trans hid⟩,
          trivial⟩
      exact fun h => hvolatile found h.1 h.2.1 h.2.2
  | succ attempts ih =>
    intro current hsound hstarted hown
    obtain ⟨hmergedId, hrevision, hintent, -⟩ := mergeWalletOutcome_kept outcome outcomeAt current
    unfold attemptOutcome
    apply Triple.tryCatch (P := R.Known current)
    · apply Triple.bind (save_over_triple hE current _
        (mergeWalletOutcome_sound hsound outcome outcomeAt) hmergedId
        (congrArg Intent.deploymentId hintent)
        (by simp [JournalEntry.version, hrevision])
        fun _ => mergeWalletOutcome_replaces hsubmits outcome outcomeAt)
      exact fun _ => Triple.pure fun _ _ _ => trivial
    · intro error
      apply Triple.bind ((findWalletRequest_triple hE awaitingWallet).pre fun _ _ _ => trivial)
      intro found
      split
      · cases found with
        | none =>
          apply (hvolatile (mergeWalletOutcome outcome outcomeAt current)
            (mergeWalletOutcome_sound hsound outcome outcomeAt) ?_
            (hmergedId.trans hown)).pre fun _ _ _ => trivial
          intro hattempt
          rw [JournalEntry.version, hrevision]
          exact hstarted (hmergedId ▸ hattempt)
        | some found =>
          apply Triple.pre (Triple.assume (p := R.Sound found ∧ R.Started found ∧
            found.clientOperationId = run.uuid) (P := fun _ => True) ?_)
            fun s _ h => ⟨⟨(h found rfl).sound, (h found rfl).started,
              (h found rfl).id.trans hid⟩, trivial⟩
          exact fun h => hvolatile found h.1 h.2.1 h.2.2
      · cases found with
        | none => exact Triple.pure fun _ _ _ => trivial
        | some found =>
          apply Triple.pre (Triple.assume (p := R.Sound found ∧ R.Started found ∧
            found.clientOperationId = run.uuid) (P := R.Known found) ?_)
            fun s _ h => ⟨⟨(h found rfl).sound, (h found rfl).started,
              (h found rfl).id.trans hid⟩, (h found rfl).known⟩
          exact fun h => ih found h.1 h.2.1 h.2.2

end

section
variable {context : SubmissionContext} {action : SubmissionAction}
  {createdAt updatedAt startedAt : String}

theorem persistWalletOutcome_triple (hE : R.Fits E) (hsubmits : run.task.isRecheck = false)
    {awaitingWallet : JournalEntry} (hsound : R.Sound awaitingWallet)
    (hstarted : R.Started awaitingWallet) (hid : awaitingWallet.clientOperationId = run.uuid)
    (outcome : WalletRequestOutcome) :
    Triple (R.discipline run E) (R.Known awaitingWallet)
      (persistWalletOutcome awaitingWallet outcome) (fun _ _ => True) (fun _ _ => True) := by
  unfold persistWalletOutcome
  apply Triple.bind now_triple
  intro outcomeAt
  exact attemptOutcome_triple hE hsubmits hid outcome outcomeAt 3 awaitingWallet hsound hstarted hid

theorem recordRefused_triple (hE : R.Fits E) (hsubmits : run.task.isRecheck = false)
    {awaitingWallet : JournalEntry} (hsound : R.Sound awaitingWallet)
    (hstarted : R.Started awaitingWallet) (hid : awaitingWallet.clientOperationId = run.uuid)
    (error : JsError) :
    Triple (R.discipline run E) (R.Known awaitingWallet) (recordRefused awaitingWallet error)
      (fun _ _ => True) (fun _ _ => True) := by
  unfold recordRefused
  apply Triple.bind (M := fun _ _ => True)
  · apply Triple.awaited (F := fun _ _ => True)
    · exact persistWalletOutcome_triple hE hsubmits hsound hstarted hid _
    · exact fun _ => stable_const
    · exact fun _ => stable_const
    · intro s h
      cases h
  · exact fun _ => Triple.pure fun _ _ _ => trivial

theorem rebaseReturnedHash_triple (hE : R.Fits E) (hsubmits : run.task.isRecheck = false)
    (awaitingWallet : JournalEntry) (hash time : String) (error : JsError) :
    Triple (R.discipline run E) (fun _ => True)
      (rebaseReturnedHash (returned awaitingWallet hash time) error)
      (fun stored s => R.Sound stored ∧ R.Started stored ∧ R.Known stored s)
      (fun _ _ => True) := by
  unfold rebaseReturnedHash
  apply Triple.bind ((find_triple (A := fun _ => True) hE steady_const
    (returned awaitingWallet hash time).deploymentId
    (returned awaitingWallet hash time).clientOperationId).pre fun _ _ _ => trivial)
  intro found
  cases found with
  | none => exact Triple.throw fun _ _ _ => trivial
  | some current =>
    apply Triple.pre (Triple.assume (p := R.Sound current ∧ R.Started current)
      (P := R.Known current) ?_)
      fun s _ h => ⟨⟨(h.2 current rfl).sound, (h.2 current rfl).started⟩,
        (h.2 current rfl).known⟩
    rintro ⟨hsound, hstarted⟩
    simp only
    split
    · exact Triple.throw fun _ _ _ => trivial
    · split
      · exact Triple.throw fun _ _ _ => trivial
      · split
        · exact Triple.throw fun _ _ _ => trivial
        · exact Triple.pure fun _ _ h => ⟨hsound, hstarted, h⟩
      · rename_i _ _ hnone
        obtain ⟨hcurrent, horiginal⟩ := Option.or_eq_none_iff.mp hnone
        have hrebased : R.Sound (rebasedHash (returned awaitingWallet hash time) current) :=
          ⟨hsound.intent, fun _ => Vouched.of_status (by simp [rebasedHash])
            (by simp [rebasedHash]),
            fun htraced => (hsound.confirmed htraced).congr rfl rfl rfl rfl rfl rfl rfl⟩
        apply (save_over_triple hE current _ hrebased rfl rfl rfl fun _ => ?_).weaken
        · exact fun _ _ h => h
        · rintro _ s _ ⟨rfl, -, hknown, -⟩
          exact ⟨hrebased.after _, fun _ => by simp, hknown⟩
        · exact fun _ _ _ _ => trivial
        · exact ⟨⟨rfl, rfl, rfl, fun _ h => h, fun _ h => (by simp [horiginal] at h),
            fun h => (by simp [hcurrent] at h), id, id, id⟩,
            (Revision.rebased awaitingWallet hash time).revised current, .inl rfl,
            fun h => by simp [hsubmits] at h⟩

theorem requested_sound (hintent : ∀ createdAt, (preparing run.uuid context action
      createdAt).intent = R.intents context.deploymentId run.uuid)
    (createdAt updatedAt startedAt : String) :
    R.Sound (requested run.uuid context action createdAt updatedAt startedAt) :=
  ⟨hintent createdAt, fun _ => Vouched.of_status (by simp [requested, awaiting, JournalEntry.after])
    (by simp [requested, awaiting, JournalEntry.after]),
    fun _ => Confirmed.of_observation
      (by simp [requested, awaiting, JournalEntry.after, preparing])⟩

theorem returned_sound {awaitingWallet : JournalEntry} (h : R.Sound awaitingWallet)
    (hash updatedAt : String) : R.Sound (returned awaitingWallet hash updatedAt) :=
  ⟨h.intent, fun _ => Vouched.of_status (by simp [returned]) (by simp [returned]),
    fun htraced => (h.confirmed htraced).congr rfl rfl rfl rfl rfl rfl rfl⟩

theorem persistReturnedHash_triple (hE : R.Fits E) (hsubmits : run.task.isRecheck = false)
    (hintent : ∀ createdAt, (preparing run.uuid context action createdAt).intent =
      R.intents context.deploymentId run.uuid) (hash time : String) :
    Triple (R.discipline run E)
      (R.Known (requested run.uuid context action createdAt updatedAt startedAt))
      (persistReturnedHash (returned (requested run.uuid context action createdAt updatedAt
        startedAt) hash time))
      (fun stored s => R.Sound stored ∧ R.Started stored ∧ R.Known stored s)
      (fun _ _ => True) := by
  have hsound := returned_sound (requested_sound hintent createdAt updatedAt startedAt) hash time
  unfold persistReturnedHash
  apply Triple.tryCatch (P := R.Known (requested run.uuid context action createdAt updatedAt
    startedAt))
  · apply (save_over_triple hE (requested run.uuid context action createdAt updatedAt startedAt) _
      hsound rfl rfl rfl fun _ => ?_).weaken
    · exact fun _ _ h => h
    · rintro _ s _ ⟨rfl, -, hknown, -⟩
      exact ⟨hsound.after _, fun _ => by simp, hknown⟩
    · exact fun _ _ _ _ => trivial
    · exact ⟨⟨rfl, rfl, rfl, fun _ h => h, fun _ h => (by cases h), fun _ => rfl, id, id, id⟩,
        (Revision.returned hash time).revised _, .inl rfl, fun h => by simp [hsubmits] at h⟩
  · intro error
    split
    · exact Triple.throw fun _ _ _ => trivial
    · exact (rebaseReturnedHash_triple hE hsubmits _ _ _ error).pre fun _ _ _ => trivial

theorem answered_triple {α : Type} {P : State → Prop} (answer : Except JsError α) :
    Triple (R.discipline run E) P (answered answer) (fun _ s => P s) (fun _ s => P s) := by
  cases answer with
  | ok a => exact Triple.pure fun _ _ h => h
  | error error => exact Triple.throw fun _ _ h => h

theorem enrich_triple (hE : R.Fits E) (hsubmits : run.task.isRecheck = false)
    {stored : JournalEntry} (hsound : R.Sound stored) (hstarted : R.Started stored)
    (hash : String) {F : JsError → State → Prop} :
    Triple (R.discipline run E) (R.Known stored) (enrich stored hash) (fun _ _ => True) F := by
  unfold enrich
  apply Triple.tryCatch (P := R.Known stored)
  · apply (Triple.request (known_stable stored) (fun s _ _ h => by cases h)
      fun _ _ _ _ h => h).bind
    intro answer
    apply Triple.bind ((answered_triple answer).weaken (fun _ _ h => h) (fun _ _ _ h => h)
      fun _ _ _ _ => trivial)
    intro nonce
    apply Triple.bind ((latest_triple (A := fun _ => True) hE steady_const hsound hstarted).pre
      fun s _ h => ⟨trivial, h⟩)
    intro current
    apply Triple.pre (Triple.assume (p := R.Sound current) (P := R.Known current) ?_)
      fun s _ h => ⟨h.2.sound, h.2.known⟩
    intro hcurrent
    apply Triple.bind now_triple
    intro time
    apply Triple.bind (M := fun _ _ => True)
    · apply (save_over_triple hE current { current with
        updatedAt := time
        nonce := some nonce } (hcurrent.congr rfl rfl rfl rfl) rfl rfl rfl fun _ => ?_).weaken
      · exact fun _ _ h => h
      · exact fun _ _ _ _ => trivial
      · exact fun _ _ _ _ => trivial
      · exact ⟨⟨rfl, rfl, rfl, fun _ h => h, fun _ h => h, id, id, fun _ => rfl, id⟩,
          ⟨_, .nonce nonce, rfl⟩, .inr (.inr ⟨rfl, rfl⟩), fun h => by simp [hsubmits] at h⟩
    · exact fun _ => Triple.pure fun _ _ _ => trivial
  · exact fun _ => Triple.pure fun _ _ _ => trivial

theorem recordReturned_triple (hE : R.Fits E) (hsubmits : run.task.isRecheck = false)
    (hintent : ∀ createdAt, (preparing run.uuid context action createdAt).intent =
      R.intents context.deploymentId run.uuid) (hash : String) :
    Triple (R.discipline run E)
      (R.Known (requested run.uuid context action createdAt updatedAt startedAt))
      (recordReturned (requested run.uuid context action createdAt updatedAt startedAt) hash)
      (fun _ _ => True) (fun _ _ => True) := by
  unfold recordReturned
  apply Triple.bind now_triple
  intro time
  apply Triple.bind (Triple.caught (F := fun _ _ => True) (Triple.awaited
    (persistReturnedHash_triple hE hsubmits hintent hash time) ?_ (fun _ => stable_const)
    fun s h => by cases h))
  · intro persisted
    cases persisted with
    | error error =>
      apply Triple.bind (M := fun _ _ => True)
      · apply (saveVolatile_triple (A := fun _ => True) steady_const
          (returned_sound (requested_sound hintent createdAt updatedAt startedAt) hash time)
          (fun _ => by simp [JournalEntry.version, returned, requested, JournalEntry.after])
          fun _ => rfl).weaken
        · exact fun _ _ _ => trivial
        · exact fun _ _ _ _ => trivial
        · exact fun _ _ _ _ => trivial
      · exact fun _ => Triple.pure fun _ _ _ => trivial
    | ok stored =>
      apply Triple.pre (Triple.assume (p := R.Sound stored ∧ R.Started stored)
        (P := R.Known stored) ?_)
        fun s _ h => ⟨⟨(h.1 stored rfl).1, (h.1 stored rfl).2.1⟩, (h.1 stored rfl).2.2⟩
      rintro ⟨hsound, hstarted⟩
      apply Triple.bind (enrich_triple hE hsubmits hsound hstarted hash)
      exact fun _ => Triple.pure fun _ _ _ => trivial
  · intro stored a b hinv hrely h
    exact ⟨h.1, h.2.1, known_stable stored a b hinv hrely h.2.2⟩

theorem failBeforeSubmit_triple (hE : R.Fits E) (hsubmits : run.task.isRecheck = false)
    {entry : JournalEntry} (hsound : R.Sound entry) (category message : String) :
    Triple (R.discipline run E) (R.Known entry) (failBeforeSubmit entry category message)
      (fun _ _ => True) (fun _ _ => True) := by
  unfold failBeforeSubmit
  apply Triple.bind now_triple
  intro time
  apply Triple.bind (M := fun _ _ => True)
  · apply (save_over_triple hE entry { entry with
      updatedAt := time
      status := .failedBeforeSubmit
      lastErrorCategory := some category } ⟨hsound.intent,
        fun _ => Vouched.of_status (by simp) (by simp),
        fun htraced => (hsound.confirmed htraced).congr rfl rfl rfl rfl rfl rfl rfl⟩ rfl rfl rfl
      fun _ => ?_).weaken
    · exact fun _ _ h => h
    · exact fun _ _ _ _ => trivial
    · exact fun _ _ _ _ => trivial
    · exact ⟨⟨rfl, rfl, rfl, fun _ h => h, fun _ h => h, id, id, id, id⟩,
        ⟨_, .failed category, rfl⟩, .inr (.inr ⟨rfl, rfl⟩), fun h => by simp [hsubmits] at h⟩
  · exact fun _ => Triple.pure fun _ _ _ => trivial

theorem Stored.known {entry : JournalEntry} {s : State} (h : R.Stored entry s.1) :
    R.Known entry s := fun _ => .inr h

theorem contextStillCurrent_triple {P : State → Prop} {F : JsError → State → Prop} :
    Triple (R.discipline run E) P (Async.access contextStillCurrent) (fun _ s => P s) F :=
  Triple.access fun _ _ _ hinv h => ⟨Discipline.quiet_refl _ _, hinv, h⟩

theorem requestWallet_triple (hE : R.Fits E) (htask : run.task = .submit context action)
    (hintent : ∀ createdAt, (preparing run.uuid context action createdAt).intent =
      R.intents context.deploymentId run.uuid) (createdAt updatedAt startedAt : String) :
    Triple (R.discipline run E)
      (fun s => R.Stored (requested run.uuid context action createdAt updatedAt startedAt) s.1)
      (requestWallet (requested run.uuid context action createdAt updatedAt startedAt))
      (fun _ _ => True) (fun _ _ => True) := by
  have hsubmits : run.task.isRecheck = false := by rw [htask]; rfl
  have hsound := requested_sound hintent createdAt updatedAt startedAt
  have hstable : (R.discipline run E).Stable fun s => R.Stored (requested run.uuid context action
      createdAt updatedAt startedAt) s.1 := stored_stable _
  have hfail := fun category message => (failBeforeSubmit_triple hE hsubmits hsound category
    message).pre fun s _ (h : R.Stored (requested run.uuid context action createdAt updatedAt
      startedAt) s.1) => Stored.known h
  unfold requestWallet
  apply Triple.bind contextStillCurrent_triple
  intro current
  split
  · exact hfail _ _
  apply (Triple.request hstable (fun s _ _ h => by cases h) fun _ _ _ _ h => h).bind
  intro verified
  change Except JsError Unit at verified
  cases verified with
  | error error => exact hfail _ _
  | ok _ =>
    apply Triple.bind contextStillCurrent_triple
    intro current
    split
    · exact hfail _ _
    apply (Triple.request hstable ?_ fun _ _ _ _ h => h).bind
    · intro answer
      change Except JsError String at answer
      cases answer with
      | error error =>
        exact (recordRefused_triple hE hsubmits hsound (fun _ => by simp [requested]) rfl
          error).pre fun s _ h => Stored.known h
      | ok hash =>
        exact (recordReturned_triple hE hsubmits hintent hash).pre fun s _ h => Stored.known h
    · exact fun s _ h _ => ⟨context, action, createdAt, updatedAt, startedAt, htask, h⟩

theorem simulate_triple {P : State → Prop} (hP : (R.discipline run E).Stable P) :
    Triple (R.discipline run E) P simulate (fun _ s => P s) (fun _ s => P s) := by
  have hcontext : Triple (R.discipline run E) P requireContext (fun _ s => P s)
      (fun _ s => P s) := by
    unfold requireContext
    apply Triple.bind contextStillCurrent_triple
    intro current
    split
    · exact Triple.pure fun _ _ h => h
    · exact Triple.throw fun _ _ h => h
  unfold simulate
  apply hcontext.bind
  intro _
  apply (Triple.request hP (fun s _ _ h => by cases h) fun _ _ _ _ h => h).bind
  intro answer
  apply (answered_triple answer).bind
  exact fun _ => hcontext

theorem attemptWallet_triple (hE : R.Fits E) (htask : run.task = .submit context action)
    (hattempt : R.attempts run.uuid)
    (hintent : ∀ createdAt, (preparing run.uuid context action createdAt).intent =
      R.intents context.deploymentId run.uuid) (createdAt : String) :
    Triple (R.discipline run E)
      (fun s => R.Stored ((preparing run.uuid context action createdAt).after 0) s.1)
      (attemptWallet ((preparing run.uuid context action createdAt).after 0))
      (fun _ _ => True) (fun _ _ => True) := by
  have hsubmits : run.task.isRecheck = false := by rw [htask]; rfl
  have hbase : R.Sound ((preparing run.uuid context action createdAt).after 0) :=
    ⟨hintent createdAt, fun _ => Vouched.of_status (by simp [preparing, JournalEntry.after])
      (by simp [preparing, JournalEntry.after]),
      fun _ => Confirmed.of_observation (by simp [preparing, JournalEntry.after])⟩
  unfold attemptWallet
  apply Triple.bind (Triple.caught (simulate_triple (stored_stable _)))
  intro simulated
  cases simulated with
  | error error =>
    exact (failBeforeSubmit_triple hE hsubmits hbase _ _).pre fun s _ h =>
      Stored.known (h.2 error rfl)
  | ok _ =>
    apply Triple.bind now_triple
    intro updatedAt
    apply Triple.bind now_triple
    intro startedAt
    have hawaiting : R.Sound (awaiting ((preparing run.uuid context action createdAt).after 0)
        updatedAt startedAt) :=
      (requested_sound hintent createdAt updatedAt startedAt).congr rfl rfl rfl rfl
    apply Triple.bind ((save_over_triple hE ((preparing run.uuid context action createdAt).after 0)
      (awaiting ((preparing run.uuid context action createdAt).after 0) updatedAt startedAt)
      hawaiting rfl rfl rfl fun _ => ?_).weaken (fun s _ h => Stored.known (h.1 _ rfl))
      (fun _ _ _ h => h) fun _ _ _ _ => trivial)
    · intro stored
      apply Triple.pre (Triple.assume (p := stored = requested run.uuid context action createdAt
        updatedAt startedAt) (P := fun s => R.Stored stored s.1) ?_)
        fun s _ h => ⟨h.eq, h.first hattempt Nat.one_lt_two⟩
      rintro rfl
      exact requestWallet_triple hE htask hintent createdAt updatedAt startedAt
    · exact ⟨⟨rfl, rfl, rfl, fun _ h => (by cases h), fun _ h => h, id, id, id, id⟩,
        (Revision.awaiting updatedAt startedAt).revised _, .inl rfl,
        fun h => by simp [hsubmits] at h⟩

theorem submitOperation_triple (hE : R.Fits E) (htask : run.task = .submit context action)
    (hattempt : R.attempts run.uuid)
    (hintent : ∀ createdAt, (preparing run.uuid context action createdAt).intent =
      R.intents context.deploymentId run.uuid) :
    Triple (R.discipline run E) (fun _ => True) (submitOperation run.uuid context action)
      (fun _ _ => True) (fun _ _ => True) := by
  unfold submitOperation
  apply (Triple.request stable_const (fun s _ _ h => by cases h) fun _ _ _ _ _ => trivial).bind
    (M := fun _ _ => True)
  intro acquired
  split
  · apply Triple.awaited (F := fun _ _ => True)
    · unfold submitOwnedOperation
      apply Triple.bind (M := fun _ _ => True)
      · apply Triple.access
        intro m s hm hinv _
        obtain ⟨hquiet, hinv'⟩ := hE.reads hm hinv context.deploymentId
        exact ⟨hquiet, hinv', trivial⟩
      intro entries
      split
      · exact Triple.throw fun _ _ _ => trivial
      apply Triple.bind now_triple
      intro createdAt
      have hpreparing : R.Sound (preparing run.uuid context action createdAt) :=
        ⟨hintent createdAt, fun _ => Vouched.of_status (by simp [preparing])
          (by simp [preparing]), fun _ => Confirmed.of_observation (by simp [preparing])⟩
      apply Triple.bind (M := R.Saved (fun _ => True)
        (preparing run.uuid context action createdAt))
      · apply Triple.awaited (F := fun _ _ => True)
        · apply (save_triple (A := fun _ => True) (B := fun _ => True) hE hpreparing steady_const
            steady_const (fun _ _ => trivial) fun _ _ _ _ _ _ => trivial).weaken
          · exact fun s _ _ => ⟨trivial, fun _ =>
              .inr (.inr ⟨hattempt, context, action, createdAt, htask, rfl⟩)⟩
          · exact fun _ _ _ h => h
          · exact fun _ _ _ _ => trivial
        · exact fun stored => saved_stable steady_const stored
        · exact fun _ => stable_const
        · intro s h
          cases h
      intro base
      apply Triple.pre (Triple.assume
        (p := base = (preparing run.uuid context action createdAt).after 0)
        (P := fun s => R.Stored base s.1) ?_) fun s _ h => ⟨h.eq, h.first hattempt Nat.zero_lt_two⟩
      rintro rfl
      exact attemptWallet_triple hE htask hattempt hintent createdAt
    · exact fun _ => stable_const
    · exact fun _ => stable_const
    · intro s h
      cases h
  · exact Triple.throw fun _ _ _ => trivial

end

end Rules

end MotorCove.Web
