import MotorCove.Web.JournalTriples

/-!
# Recheck runs

Each update of a run is an edit of the latest entry: it keeps the intent, says
only what an answer said, and where storage works it is written over the row
that it was made from. A run is a chain of such edits.
-/

set_option autoImplicit false

namespace MotorCove.Web
open MotorCove.Asynchrony

namespace Rules
variable {R : Rules} {run : Run} {E : Surroundings Answer Moment}

/-- The entry bears the mark that the update asks for, if it asks for one. -/
def Marked (mark : Option String) (entry : JournalEntry) : Prop :=
  ∀ uuid, mark = some uuid → entry.verificationRequestId = some uuid

/-- What makes an update an edit of the operation's entry, in states of `A`. -/
structure Edit (R : Rules) (run : Run) (A : State → Prop) (entry : JournalEntry)
    (mark : Option String) (values : JournalEntry → JournalEntry) : Prop where
  id : ∀ current, (values current).clientOperationId = current.clientOperationId
  revision : ∀ current, (values current).revision = current.revision
  intent : ∀ current, (values current).intent = current.intent
  sound : ∀ current, R.Sound current → current.clientOperationId = entry.clientOperationId →
    current.deploymentId = entry.deploymentId → Marked mark current → R.Sound (values current)
  replaces : R.healthy → ∀ s current, A s → current ∈ rows s.1 entry.deploymentId →
    current.clientOperationId = entry.clientOperationId → Marked mark current →
    run.Replaces current (values current)

structure Updated (R : Rules) (B : JournalEntry → State → Prop) (entry updated : JournalEntry)
    (s : State) : Prop where
  id : updated.clientOperationId = entry.clientOperationId
  deployment : updated.deploymentId = entry.deploymentId
  sound : R.Sound updated
  started : R.Started updated
  known : R.Known updated s
  after : R.healthy → B updated s

theorem Steady.guard {p : Prop} {P : State → Prop} (hP : R.Steady run E P) :
    R.Steady run E fun s => p → P s :=
  ⟨fun a b hinv hrely h hp => hP.stable a b hinv hrely (h hp), fun hquiet h hp =>
    hP.quiet hquiet (h hp)⟩

theorem Current.known {deploymentId id : String} {entry : JournalEntry} {s : State}
    (h : R.Current deploymentId id entry s) : R.Known entry s := by
  intro hhealthy
  rcases h.place hhealthy with hvolatile | hrow
  · exact .inl (h.id ▸ hvolatile)
  · exact .inr ⟨entry, h.deployment ▸ hrow, rfl, .inl rfl⟩

theorem storageUnavailable_triple {P : State → Prop} (deploymentId : String)
    {F : JsError → State → Prop} :
    Triple (R.discipline run E) P (Async.access (storageUnavailable deploymentId))
      (fun retry s => (R.healthy → retry = false) ∧ P s) F := by
  apply Triple.access
  intro m s _ hinv h
  refine ⟨Discipline.quiet_refl _ _, hinv, fun hhealthy => ?_, h⟩
  obtain ⟨hwrite, hissues⟩ := hinv.2.calm hhealthy
  simp [storageUnavailable, loadIssues, hwrite, hissues]

theorem now_triple {P : State → Prop} {F : JsError → State → Prop} :
    Triple (R.discipline run E) P (Async.access now) (fun _ s => P s) F :=
  Triple.access fun _ _ _ hinv h => ⟨Discipline.quiet_refl _ _, hinv, h⟩

section
variable {A : State → Prop} {B : JournalEntry → State → Prop} {entry : JournalEntry}
  {mark : Option String} {values : JournalEntry → JournalEntry}

theorem Edit.writable (hedit : R.Edit run A entry mark values) {current : JournalEntry}
    {s : State} (hcurrent : R.Current entry.deploymentId entry.clientOperationId current s)
    (hmark : Marked mark current) (hA : A s) (time : String) (hhealthy : R.healthy) :
    IsVolatile s.2 (values current).clientOperationId ∨
      R.Writable run { values current with updatedAt := time } s.1 := by
  rcases hcurrent.place hhealthy with hvolatile | hrow
  · left
    rw [hedit.id, hcurrent.id]
    exact hvolatile
  · right
    have hdep : (values current).deploymentId = current.deploymentId :=
      congrArg Intent.deploymentId (hedit.intent current)
    refine .inl ⟨current, (hedit.id current).symm, hdep.symm, ?_, ?_, ?_⟩
    · simp [JournalEntry.version, hedit.revision]
    · exact ⟨current, hcurrent.deployment ▸ hrow, rfl, .inl rfl⟩
    · exact (hedit.replaces hhealthy s current hA hrow hcurrent.id hmark).touched time

theorem recoverWrite_triple (hE : R.Fits E) (hA : R.Steady run E A)
    (hskip : ∀ e s, A s → B e s) (hentry : R.Sound entry) (hstarted : R.Started entry)
    {next : JournalEntry} (hid : next.clientOperationId = entry.clientOperationId)
    (hdep : next.deploymentId = entry.deploymentId) (hsound : R.Sound next)
    (hnext : R.Started next) (error : JsError) :
    Triple (R.discipline run E)
      (fun s => R.Throws error ∧ (R.healthy → A s) ∧ R.Known entry s)
      (recoverWrite entry next error)
      (fun updated s => R.Updated B entry updated.1 s) (fun _ s => R.Known entry s) := by
  unfold recoverWrite
  split
  · apply Triple.bind ((latest_triple (A := fun s => R.healthy → A s) hE hA.guard hentry
      hstarted).pre fun s _ h => h.2)
    intro latest
    apply Triple.pure
    intro s _ h
    exact ⟨h.2.id, h.2.deployment, h.2.sound, h.2.started, h.2.known,
      fun hhealthy => hskip _ _ (h.1 hhealthy)⟩
  · rename_i hmessage
    split
    · rename_i hunavailable
      by_cases hhealthy : R.healthy
      · rintro start s _ _ ⟨hthrows, -, -⟩
        rcases hthrows hhealthy with rfl | ⟨-, hfalse⟩
        · exact absurd rfl hmessage
        · exact absurd (hunavailable.symm.trans hfalse) (by simp)
      · apply Triple.bind ((saveVolatile_triple (A := fun s => R.Known entry s)
          (known_steady entry) hsound hnext fun h => absurd h hhealthy).weaken (fun _ _ h => h.2.2)
          (fun _ _ _ h => h) fun _ _ _ h => h.2)
        intro stored
        apply Triple.pure
        rintro s _ ⟨rfl, -, -⟩
        exact ⟨hid, hdep, hsound.after _, fun _ => by simp, fun h => absurd h hhealthy,
          fun h => absurd h hhealthy⟩
    · exact Triple.throw fun _ _ h => h.2.2

theorem updated_stable (hB : ∀ e, R.Steady run E (B e)) (updated : JournalEntry) :
    (R.discipline run E).Stable (R.Updated B entry updated) := by
  intro a b hinv hrely h
  exact ⟨h.id, h.deployment, h.sound, h.started, known_stable updated a b hinv hrely h.known,
    fun hhealthy => (hB updated).stable a b hinv hrely (h.after hhealthy)⟩

theorem saveOrRetry_triple (hE : R.Fits E) (hA : R.Steady run E A)
    (hB : ∀ e, R.Steady run E (B e)) (hskip : ∀ e s, A s → B e s) {next : JournalEntry}
    (hid : next.clientOperationId = entry.clientOperationId)
    (hdep : next.deploymentId = entry.deploymentId) (hsound : R.Sound next)
    (hover : ∀ before after : State, R.Shared before.1 → A before →
      Overwrites before.1 after.1 (next.after next.version) → R.Remembers run before.2 after.2 →
      B (next.after next.version) after) (retry : Bool) :
    Triple (R.discipline run E)
      (fun s => (R.healthy → retry = false) ∧ (A s ∧ R.Known entry s) ∧ (R.healthy →
        IsVolatile s.2 next.clientOperationId ∨ R.Writable run next s.1))
      (if retry = true then retryDurableSave next else save next)
      (R.Updated B entry)
      (fun error s => R.Throws error ∧ (R.healthy → A s) ∧ R.Known entry s) := by
  cases retry with
  | true =>
    by_cases hhealthy : R.healthy
    · intro start s _ _ h
      exact absurd (h.1 hhealthy) (by simp)
    · simp only [if_true]
      apply (retry_triple hE hhealthy hsound).weaken
      · exact fun _ _ _ => trivial
      · intro stored s _ h
        exact ⟨h.2.2.1.trans hid, h.2.2.2.trans hdep, h.1, h.2.1, fun h => absurd h hhealthy,
          fun h => absurd h hhealthy⟩
      · exact fun _ _ _ _ => ⟨fun h => absurd h hhealthy, fun h => absurd h hhealthy,
          fun h => absurd h hhealthy⟩
  | false =>
    simp only [Bool.false_eq_true, if_false]
    apply (save_triple (A := fun s => A s ∧ R.Known entry s)
      (B := B (next.after next.version)) hE hsound (hA.and (known_steady entry)) (hB _)
      (fun s h => hskip _ s h.1) fun before after hshared h hw hr =>
        hover before after hshared h.1 hw hr).weaken
    · exact fun _ _ h => h.2
    · rintro _ s _ ⟨rfl, hBs, hknown, -⟩
      exact ⟨hid, hdep, hsound.after _, fun _ => by simp, hknown, fun _ => hBs⟩
    · exact fun _ _ _ h => ⟨h.1, fun _ => h.2.1, h.2.2⟩

theorem write_triple (hE : R.Fits E) (hA : R.Steady run E A)
    (hB : ∀ e, R.Steady run E (B e)) (hskip : ∀ e s, A s → B e s)
    (hentry : R.Sound entry) (hstarted : R.Started entry) (next : JournalEntry)
    (hid : next.clientOperationId = entry.clientOperationId)
    (hdep : next.deploymentId = entry.deploymentId) (hsound : R.Sound next)
    (hnext : R.Started next) (hover : ∀ before after : State, R.Shared before.1 → A before →
      Overwrites before.1 after.1 (next.after next.version) → R.Remembers run before.2 after.2 →
      B (next.after next.version) after) (retry : Bool) :
    Triple (R.discipline run E)
      (fun s => (R.healthy → retry = false) ∧ (A s ∧ R.Known entry s) ∧ (R.healthy →
        IsVolatile s.2 next.clientOperationId ∨ R.Writable run next s.1))
      (tryCatch (Async.awaited .settled (if retry = true then retryDurableSave next
          else save next) >>= fun stored => (pure (stored, true) : Program (JournalEntry × Bool)))
        (recoverWrite entry next))
      (fun updated s => R.Updated B entry updated.1 s) (fun _ s => R.Known entry s) := by
  apply Triple.tryCatch
  · apply Triple.bind
    · apply (saveOrRetry_triple hE hA hB hskip hid hdep hsound hover retry).awaited
      · exact updated_stable hB
      · intro error a b hinv hrely h
        exact ⟨h.1, fun hhealthy => hA.stable a b hinv hrely (h.2.1 hhealthy),
          known_stable entry a b hinv hrely h.2.2⟩
      · intro s h
        cases h
    · intro stored
      exact Triple.pure fun _ _ h => h
  · exact recoverWrite_triple hE hA hskip hentry hstarted hid hdep hsound hnext

theorem update_triple (hE : R.Fits E) (hA : R.Steady run E A) (hB : ∀ e, R.Steady run E (B e))
    (hskip : ∀ e s, A s → B e s) (hentry : R.Sound entry) (hstarted : R.Started entry)
    (hedit : R.Edit run A entry mark values)
    (hover : ∀ current time, ∀ before after : State, R.Shared before.1 → A before →
      Overwrites before.1 after.1 (({ values current with updatedAt := time } : JournalEntry).after
        current.version) → R.Remembers run before.2 after.2 →
      B (({ values current with updatedAt := time } : JournalEntry).after current.version) after) :
    Triple (R.discipline run E) (fun s => A s ∧ R.Known entry s) (update entry values mark)
      (fun updated s => R.Updated B entry updated.1 s) (fun _ s => R.Known entry s) := by
  unfold update
  apply Triple.bind (M := fun current s => (A s ∧ R.Known entry s) ∧
    R.Current entry.deploymentId entry.clientOperationId current s)
  · exact (latest_triple (A := fun s => A s ∧ R.Known entry s) hE (hA.and (known_steady entry))
      hentry hstarted).pre fun s _ h => ⟨h, h.2⟩
  intro current
  split
  · apply Triple.pure
    rintro s _ ⟨⟨hAs, -⟩, hcurrent⟩
    exact ⟨hcurrent.id, hcurrent.deployment, hcurrent.sound, hcurrent.started, hcurrent.known,
      fun _ => hskip _ s hAs⟩
  · rename_i hguard
    have hmark : Marked mark current := by
      rintro uuid rfl
      simpa using hguard
    apply Triple.bind now_triple
    intro time
    apply Triple.bind (storageUnavailable_triple entry.deploymentId)
    intro retry start s hquiet hinv h
    obtain ⟨hretry, ⟨hAs, hknown⟩, hcurrent⟩ := h
    have hversion : ({ values current with updatedAt := time } : JournalEntry).version =
        current.version := by
      simp [JournalEntry.version, hedit.revision]
    have hdep : (values current).deploymentId = current.deploymentId :=
      congrArg Intent.deploymentId (hedit.intent current)
    refine write_triple hE hA hB hskip hentry hstarted { values current with updatedAt := time }
      ((hedit.id current).trans hcurrent.id) (hdep.trans hcurrent.deployment)
      ((hedit.sound current hcurrent.sound hcurrent.id hcurrent.deployment hmark).congr rfl rfl rfl
        rfl) ?_ ?_ retry start s hquiet hinv ⟨hretry, ⟨hAs, hknown⟩, ?_⟩
    · intro hattempt
      rw [hversion]
      exact hcurrent.started ((hedit.id current) ▸ hattempt)
    · intro before after hshared hA' hw hr
      rw [hversion] at hw ⊢
      exact hover current time before after hshared hA' hw hr
    · exact hedit.writable hcurrent hmark hAs time

theorem conclude_triple (hE : R.Fits E) (hA : R.Steady run E A) (hentry : R.Sound entry)
    (hstarted : R.Started entry) {edits : String → JournalEntry → JournalEntry}
    (hedit : ∀ time, R.Edit run A entry (some run.uuid) (edits time)) (result : RecoveryResult) :
    Triple (R.discipline run E) (fun s => A s ∧ R.Known entry s)
      (conclude entry run.uuid edits result) (fun _ _ => True) (fun _ s => R.Known entry s) := by
  unfold conclude
  apply Triple.bind now_triple
  intro time
  apply Triple.bind (M := fun _ _ => True)
  · apply Triple.awaited (F := fun _ s => R.Known entry s)
    · exact (update_triple (B := fun _ _ => True) hE hA (fun _ => steady_const)
        (fun _ _ _ => trivial) hentry hstarted (hedit time)
        fun _ _ _ _ _ _ _ _ => trivial).post fun _ _ _ _ => trivial
    · exact fun _ => stable_const
    · exact fun _ => known_stable entry
    · intro s h
      cases h
  · intro updated
    exact Triple.pure fun _ _ _ => trivial

end

/-- The rows that bear the run's mark have the original hash of the entry that
the run verifies. -/
def Own (run : Run) (verifying : JournalEntry) (storage : LocalStorage) : Prop :=
  ∀ row ∈ rows storage verifying.deploymentId,
    row.clientOperationId = verifying.clientOperationId →
      row.verificationRequestId = some run.uuid → row.originalTxHash = verifying.originalTxHash

theorem own_steady (verifying : JournalEntry) :
    R.Steady run E fun s => R.healthy → Own run verifying s.1 := by
  constructor
  · intro a b _ hrely h hhealthy row hrow hid hmark
    obtain ⟨older, holder, hid', hmark', hhash⟩ := hrely.mark hhealthy _ row hrow hmark
    exact hhash.symm.trans (h hhealthy older holder (hid'.trans hid) hmark')
  · intro a b hquiet h hhealthy
    rw [hquiet.1]
    exact h hhealthy

structure IsFinality (finality : JournalEntry → JournalEntry) : Prop where
  fields : FinalityFields finality
  id : ∀ entry, (finality entry).clientOperationId = entry.clientOperationId
  revision : ∀ entry, (finality entry).revision = entry.revision
  intent : ∀ entry, (finality entry).intent = entry.intent
  evidence : ∀ entry, (finality entry).evidence = entry.evidence
  createdAt : ∀ entry, (finality entry).createdAt = entry.createdAt
  retryOf : ∀ entry, (finality entry).retryOf = entry.retryOf
  started : ∀ entry, (finality entry).walletRequestStartedAt = entry.walletRequestStartedAt
  nonce : ∀ entry, (finality entry).nonce = entry.nonce
  outcome : ∀ entry, (finality entry).walletRequestOutcome = entry.walletRequestOutcome
  mark : ∀ entry, (finality entry).verificationRequestId = entry.verificationRequestId

theorem isFinality_of_fields {finality : JournalEntry → JournalEntry}
    (h : FinalityFields finality) : IsFinality finality := by
  cases h with
  | unobserved => exact ⟨.unobserved, fun _ => rfl, fun _ => rfl, fun _ => rfl, fun _ => rfl,
      fun _ => rfl, fun _ => rfl, fun _ => rfl, fun _ => rfl, fun _ => rfl, fun _ => rfl⟩
  | known => exact ⟨.known, fun _ => rfl, fun _ => rfl, fun _ => rfl, fun _ => rfl,
      fun _ => rfl, fun _ => rfl, fun _ => rfl, fun _ => rfl, fun _ => rfl, fun _ => rfl⟩
  | observed time proof =>
    refine ⟨.observed time proof, ?_, ?_, ?_, ?_, ?_, ?_, ?_, ?_, ?_, ?_⟩ <;> cases proof <;>
      exact fun _ => rfl

theorem Vouched.of_status {entry : JournalEntry} (hreverted : entry.status ≠ .includedReverted)
    (hsuccess : entry.status ≠ .includedSuccess) : R.Vouched entry :=
  ⟨fun h => absurd h hreverted, fun h => absurd h hsuccess⟩

theorem Confirmed.of_observation {entry : JournalEntry}
    (h : entry.projectionObservation ≠ some .reflected) : R.Confirmed entry :=
  fun hreflected => absurd hreflected h

theorem Sound.intent_of {entry entry' : JournalEntry} (h : R.Sound entry)
    (hid : entry'.clientOperationId = entry.clientOperationId)
    (hintent : entry'.intent = entry.intent) :
    entry'.intent = R.intents entry'.deploymentId entry'.clientOperationId := by
  have hdep : entry'.deploymentId = entry.deploymentId := congrArg Intent.deploymentId hintent
  rw [hintent, hid, hdep]
  exact h.intent

theorem Confirmed.congr {entry entry' : JournalEntry} (h : R.Confirmed entry)
    (hintent : entry'.intent = entry.intent)
    (hobservation : entry'.projectionObservation = entry.projectionObservation)
    (hhash : entry'.projectionTransactionHash = entry.projectionTransactionHash)
    (hblock : entry'.projectionBlockHash = entry.projectionBlockHash)
    (hlog : entry'.projectionLogIndex = entry.projectionLogIndex)
    (hdeployment : entry'.projectionDeploymentId = entry.projectionDeploymentId)
    (hbuild : entry'.projectionBuildId = entry.projectionBuildId) :
    R.Confirmed entry' := by
  have hsale : entry'.saleId = entry.saleId := congrArg Intent.saleId hintent
  have hdep : entry'.deploymentId = entry.deploymentId := congrArg Intent.deploymentId hintent
  unfold Confirmed
  rw [hobservation, hhash, hblock, hlog, hdeployment, hbuild, hsale, hdep]
  exact h

section
variable {verifying current : JournalEntry} {finality : JournalEntry → JournalEntry}

theorem replaces_marked {next : JournalEntry} (hrevised : Revised run.uuid current next)
    (hmark : current.verificationRequestId = some run.uuid) (hintent : next.intent = current.intent)
    (hcreated : next.createdAt = current.createdAt) (hretry : next.retryOf = current.retryOf)
    (hstarted : next.walletRequestStartedAt = current.walletRequestStartedAt)
    (hnonce : next.nonce = current.nonce)
    (houtcome : next.walletRequestOutcome = current.walletRequestOutcome)
    (hnext : next.verificationRequestId = current.verificationRequestId)
    (horiginal : ∀ hash, current.originalTxHash = some hash → next.originalTxHash = some hash)
    (hcurrent : current.currentTxHash.isSome → next.currentTxHash.isSome)
    (hreceipt : current.receiptStatus.isSome → next.receiptStatus.isSome) :
    run.Replaces current next where
  intent := hintent
  createdAt := hcreated
  retryOf := hretry
  started _ h := hstarted.trans h
  original := horiginal
  current := hcurrent
  receipt := hreceipt
  nonce h := hnonce ▸ h
  outcome h := houtcome ▸ h
  revised := hrevised
  mark := .inr (.inl (hnext.trans hmark))
  fenced _ := .inl hmark

theorem edit_verification {A : State → Prop} {entry : JournalEntry} {mark : Option String}
    {values : JournalEntry → JournalEntry} (h : ∀ current, ∃ availability verifiedAt category,
      values current = { current with
        verificationAvailability := availability
        lastVerifiedAt := verifiedAt
        lastErrorCategory := category }) : R.Edit run A entry mark values := by
  constructor
  · intro current
    obtain ⟨_, _, _, heq⟩ := h current
    rw [heq]
  · intro current
    obtain ⟨_, _, _, heq⟩ := h current
    rw [heq]
  · intro current
    obtain ⟨_, _, _, heq⟩ := h current
    rw [heq]
    rfl
  · intro current hsound _ _ _
    obtain ⟨_, _, _, heq⟩ := h current
    rw [heq]
    exact hsound.congr rfl rfl rfl rfl
  · intro _ s current _ _ _ _
    have hrevised : Revised run.uuid current _ := (Revision.verified h).revised current
    obtain ⟨_, _, _, heq⟩ := h current
    rw [heq] at hrevised ⊢
    exact ⟨⟨rfl, rfl, rfl, fun _ h => h, fun _ h => h, id, id, id, id⟩, hrevised,
      .inr (.inr ⟨rfl, rfl⟩), fun _ => .inr rfl⟩

theorem withOriginal_original {s : State} {verifiedHash : String}
    (hown : Own run verifying s.1) (hrow : current ∈ rows s.1 verifying.deploymentId)
    (hid : current.clientOperationId = verifying.clientOperationId)
    (hmark : current.verificationRequestId = some run.uuid) (hash : String)
    (h : current.originalTxHash = some hash) :
    (if verifying.originalTxHash.isSome then current.originalTxHash else some verifiedHash) =
      some hash := by
  rw [← hown current hrow hid hmark, h]
  rfl

theorem edit_noncanonical {A : State → Prop} (time : String) :
    R.Edit run A verifying (some run.uuid) fun current => { current with
      status := .orphaned
      projectionObservation := some .inconsistent
      verificationAvailability := some .available
      lastVerifiedAt := some time
      lastErrorCategory := some "RECEIPT_BLOCK_NONCANONICAL" } where
  id _ := rfl
  revision _ := rfl
  intent _ := rfl
  sound current h _ _ _ := ⟨h.intent, fun _ => Vouched.of_status (by simp) (by simp),
    fun _ => Confirmed.of_observation (by simp)⟩
  replaces _ s current _ _ _ hmark := replaces_marked ((Revision.noncanonical _).revised _)
    (hmark _ rfl) rfl rfl rfl rfl rfl rfl rfl (fun _ h => h) id id

theorem edit_replaced {A : State → Prop} (replacementHash : String) (kind : ReplacementKind)
    (time : String) :
    R.Edit run A verifying (some run.uuid) fun current => { current with
      currentTxHash := some replacementHash
      replacementKind := some kind
      status := .replacedOrCancelled
      projectionObservation := some .inconsistent
      verificationAvailability := some .available
      lastVerifiedAt := some time
      lastErrorCategory := some ("TRANSACTION_" ++ replacementText kind) } where
  id _ := rfl
  revision _ := rfl
  intent _ := rfl
  sound current h _ _ _ := ⟨h.intent, fun _ => Vouched.of_status (by simp) (by simp),
    fun _ => Confirmed.of_observation (by simp)⟩
  replaces _ s current _ _ _ hmark := replaces_marked ((Revision.replaced _ _ _).revised _)
    (hmark _ rfl) rfl rfl rfl rfl rfl rfl rfl (fun _ h => h) (fun _ => rfl) id

theorem edit_pending (verifiedHash : String) (candidateHash : Option String) (time : String) :
    R.Edit run (fun s => R.healthy → Own run verifying s.1) verifying (some run.uuid)
      (pendingValues verifying verifiedHash candidateHash time) where
  id _ := rfl
  revision _ := rfl
  intent _ := rfl
  sound current h _ _ _ := ⟨h.intent, fun _ => Vouched.of_status (by simp [pendingValues])
    (by simp [pendingValues]),
    fun htraced => (h.confirmed htraced).congr rfl rfl rfl rfl rfl rfl rfl⟩
  replaces hhealthy s current hown hrow hid hmark := replaces_marked
    ((Revision.pending _ _ _ _).revised _) (hmark _ rfl) rfl rfl rfl rfl rfl rfl rfl
    (withOriginal_original (hown hhealthy) hrow hid (hmark _ rfl)) (fun _ => rfl) id

/-- What follows the values of an inclusion leaves them as they are, and adds
what is known of the event. -/
structure AddsEvent (event : JournalEntry → JournalEntry) : Prop where
  id : ∀ entry, (event entry).clientOperationId = entry.clientOperationId
  revision : ∀ entry, (event entry).revision = entry.revision
  intent : ∀ entry, (event entry).intent = entry.intent
  createdAt : ∀ entry, (event entry).createdAt = entry.createdAt
  retryOf : ∀ entry, (event entry).retryOf = entry.retryOf
  started : ∀ entry, (event entry).walletRequestStartedAt = entry.walletRequestStartedAt
  original : ∀ entry, (event entry).originalTxHash = entry.originalTxHash
  current : ∀ entry, (event entry).currentTxHash = entry.currentTxHash
  receipt : ∀ entry, (event entry).receiptStatus = entry.receiptStatus
  nonce : ∀ entry, (event entry).nonce = entry.nonce
  outcome : ∀ entry, (event entry).walletRequestOutcome = entry.walletRequestOutcome
  mark : ∀ entry, (event entry).verificationRequestId = entry.verificationRequestId

theorem edit_included (event : JournalEntry → JournalEntry) (hfinality : IsFinality finality)
    (hevent : AddsEvent event) (verifiedHash : String) (candidateHash : Option String)
    (receiptStatus : ReceiptStatus) (inclusion : Inclusion) (time : String)
    (hsound : R.Sound verifying) (hrevision : Revision run.uuid fun current =>
      event (includedValues verifying verifiedHash candidateHash receiptStatus inclusion finality
        time current))
    (hvouched : ∀ current, current.intent = verifying.intent → R.traced → R.Vouched (event (includedValues verifying verifiedHash candidateHash
        receiptStatus inclusion finality time current)))
    (hconfirmed : ∀ entry, R.Confirmed entry → R.Confirmed (event entry)) :
    R.Edit run (fun s => R.healthy → Own run verifying s.1) verifying (some run.uuid)
      (fun current => event (includedValues verifying verifiedHash candidateHash receiptStatus
        inclusion finality time current)) where
  id current := (hevent.id _).trans (hfinality.id (withOriginal verifying verifiedHash
    (associated verifying candidateHash current)))
  revision current := (hevent.revision _).trans (hfinality.revision (withOriginal verifying
    verifiedHash (associated verifying candidateHash current)))
  intent current := (hevent.intent _).trans (hfinality.intent (withOriginal verifying
    verifiedHash (associated verifying candidateHash current)))
  sound current h hid hdep _ := by
    have hintent := hfinality.intent (withOriginal verifying verifiedHash
      (associated verifying candidateHash current))
    have hevidence := hfinality.evidence (withOriginal verifying verifiedHash
      (associated verifying candidateHash current))
    have hsame : current.intent = verifying.intent := by
      rw [h.intent, hsound.intent, hid, hdep]
    refine ⟨h.intent_of ((hevent.id _).trans (hfinality.id (withOriginal verifying verifiedHash
      (associated verifying candidateHash current)))) ((hevent.intent _).trans hintent),
      fun htraced => hvouched current hsame htraced, fun htraced => hconfirmed _ ?_⟩
    exact (h.confirmed htraced).congr hintent (congrArg Evidence.projectionObservation hevidence)
      (congrArg Evidence.projectionTransactionHash hevidence)
      (congrArg Evidence.projectionBlockHash hevidence)
      (congrArg Evidence.projectionLogIndex hevidence)
      (congrArg Evidence.projectionDeploymentId hevidence)
      (congrArg Evidence.projectionBuildId hevidence)
  replaces hhealthy s current hown hrow hid hmark := by
    have hevidence := hfinality.evidence (withOriginal verifying verifiedHash
      (associated verifying candidateHash current))
    apply replaces_marked (hrevision.revised current) (hmark _ rfl)
    · exact (hevent.intent _).trans (hfinality.intent _)
    · exact (hevent.createdAt _).trans (hfinality.createdAt _)
    · exact (hevent.retryOf _).trans (hfinality.retryOf _)
    · exact (hevent.started _).trans (hfinality.started _)
    · exact (hevent.nonce _).trans (hfinality.nonce _)
    · exact (hevent.outcome _).trans (hfinality.outcome _)
    · exact (hevent.mark _).trans (hfinality.mark _)
    · intro hash hhash
      rw [hevent.original]
      exact (congrArg Evidence.originalTxHash hevidence).trans
        (withOriginal_original (hown hhealthy) hrow hid (hmark _ rfl) hash hhash)
    · intro _
      rw [hevent.current]
      rfl
    · intro _
      rw [hevent.receipt]
      rfl

theorem included_intent (hfinality : IsFinality finality) (verifiedHash : String)
    (candidateHash : Option String) (receiptStatus : ReceiptStatus) (inclusion : Inclusion)
    (time : String) (hsame : current.intent = verifying.intent) :
    (includedValues verifying verifiedHash candidateHash receiptStatus inclusion finality time
      current).intent = verifying.intent :=
  (hfinality.intent (withOriginal verifying verifiedHash (associated verifying candidateHash
    current))).trans hsame

theorem edit_reverted (hfinality : IsFinality finality) (verifiedHash : String)
    (candidateHash : Option String) (inclusion : Inclusion) (time : String)
    (hsound : R.Sound verifying)
    (hproves : R.traced → R.proves verifying.intent (.includedReverted inclusion)) :
    R.Edit run (fun s => R.healthy → Own run verifying s.1) verifying (some run.uuid)
      (includedValues verifying verifiedHash candidateHash .reverted inclusion finality time) := by
  apply edit_included id hfinality ⟨fun _ => rfl, fun _ => rfl, fun _ => rfl,
    fun _ => rfl, fun _ => rfl, fun _ => rfl, fun _ => rfl, fun _ => rfl, fun _ => rfl,
    fun _ => rfl, fun _ => rfl, fun _ => rfl⟩ verifiedHash candidateHash .reverted inclusion time
    hsound (.reverted _ _ _ _ hfinality.fields _) _ fun _ h => h
  intro current hsame htraced
  have hintent := included_intent hfinality verifiedHash candidateHash .reverted inclusion time
    hsame
  constructor
  · intro _
    exact ⟨inclusion, hintent.symm ▸ hproves htraced, ⟨rfl, rfl, rfl⟩, rfl⟩
  · intro h
    cases h

/-- A success of another action has no event, and no projection is observed for it. -/
theorem edit_success (hfinality : IsFinality finality) (verifiedHash : String)
    (candidateHash : Option String) (inclusion : Inclusion) (logIndex : Option ℕ)
    (buyer : Option String) (amountWei : Option ℕ) (time : String) (hsound : R.Sound verifying)
    (haction : verifying.action ≠ "FUND_SALE") (hproves : R.traced → R.proves verifying.intent
      (.includedSuccess inclusion logIndex buyer amountWei)) :
    R.Edit run (fun s => R.healthy → Own run verifying s.1) verifying (some run.uuid)
      (fun current => { includedValues verifying verifiedHash candidateHash .success inclusion
        finality time current with projectionObservation := none }) := by
  apply edit_included (fun entry => { entry with projectionObservation := none })
    hfinality ⟨fun _ => rfl, fun _ => rfl, fun _ => rfl,
    fun _ => rfl, fun _ => rfl, fun _ => rfl, fun _ => rfl, fun _ => rfl, fun _ => rfl,
    fun _ => rfl, fun _ => rfl, fun _ => rfl⟩ verifiedHash candidateHash .success inclusion time
    hsound (.succeeded _ _ _ _ hfinality.fields _) _
    fun _ _ => Confirmed.of_observation (by simp)
  intro current hsame htraced
  have hintent := included_intent hfinality verifiedHash candidateHash .success inclusion time
    hsame
  constructor
  · intro h
    cases h
  · intro _
    refine ⟨inclusion, logIndex, buyer, amountWei, ?_, ⟨rfl, rfl, rfl⟩, rfl, ?_⟩
    · exact hintent.symm ▸ hproves htraced
    · intro hfund
      exact absurd ((congrArg Intent.action hintent).symm.trans hfund) haction

/-- The evidence of a funding: its receipt, its event, and the projection only
where it was observed for the same event. -/
theorem edit_funding (hfinality : IsFinality finality) (verifiedHash : String)
    (candidateHash : Option String) (inclusion : Inclusion) (logIndex : ℕ) (buyer : String)
    (amountWei : ℕ) (time : String) (hsound : R.Sound verifying)
    (hproves : R.traced → R.proves verifying.intent
      (.includedSuccess inclusion (some logIndex) (some buyer) (some amountWei))) :
    R.Edit run (fun s => R.healthy → Own run verifying s.1) verifying (some run.uuid)
      (fundingValues verifying verifiedHash candidateHash inclusion logIndex buyer amountWei
        finality time) := by
  apply edit_included (fun entry =>
    let evidence := { entry with
      eventLogIndex := some logIndex
      eventBuyer := some buyer
      eventAmountWei := some (Nat.repr amountWei) }
    if projectionIdentityChanged verifying inclusion logIndex then clearedProjection evidence
    else evidence) hfinality _ verifiedHash candidateHash .success inclusion time hsound
    (.funded _ _ _ _ _ _ _ hfinality.fields _)
  · intro current hsame htraced
    have hintent := included_intent hfinality verifiedHash candidateHash .success inclusion time
      hsame
    dsimp only
    split <;> constructor
    · intro h
      cases h
    · intro _
      refine ⟨inclusion, some logIndex, some buyer, some amountWei, ?_, ⟨rfl, rfl, rfl⟩, rfl, ?_⟩
      · exact hintent.symm ▸ hproves htraced
      · exact fun _ => ⟨logIndex, buyer, amountWei, rfl, rfl, rfl, rfl, rfl, rfl⟩
    · intro h
      cases h
    · intro _
      refine ⟨inclusion, some logIndex, some buyer, some amountWei, ?_, ⟨rfl, rfl, rfl⟩, rfl, ?_⟩
      · exact hintent.symm ▸ hproves htraced
      · exact fun _ => ⟨logIndex, buyer, amountWei, rfl, rfl, rfl, rfl, rfl, rfl⟩
  · intro entry hconfirmed
    dsimp only
    split
    · exact Confirmed.of_observation (by simp [clearedProjection])
    · exact hconfirmed.congr rfl rfl rfl rfl rfl rfl rfl
  · constructor <;> intro entry <;> dsimp only <;> split <;> rfl

theorem edit_projection {A : State → Prop} {entry : JournalEntry} (hentry : R.Sound entry)
    {saleId : String} (hsale : entry.saleId = some saleId) (inclusion : Inclusion)
    (logIndex : ℕ) (observation : FundingObservation) (time : String)
    (hconfirms : R.traced → projectionOf observation = .reflected → R.confirms saleId
      entry.deploymentId inclusion.transactionHash inclusion.blockHash logIndex
      observation.projectionBuildId) :
    R.Edit run A entry (some run.uuid)
      (projectionValues entry.deploymentId inclusion logIndex observation time) where
  id _ := rfl
  revision _ := rfl
  intent _ := rfl
  sound current h hid hdep _ := by
    have hsame : current.intent = entry.intent := by
      rw [h.intent, hentry.intent, hid, hdep]
    refine ⟨h.intent, fun htraced => ⟨fun hstatus => ?_, fun hstatus => ?_⟩,
      fun htraced hreflected => ?_⟩
    · obtain ⟨i, hproves, hshows, hreceipt⟩ := (h.vouched htraced).reverted hstatus
      exact ⟨i, hproves, ⟨hshows.1, hshows.2, hshows.3⟩, hreceipt⟩
    · obtain ⟨i, l, b, a, hproves, hshows, hreceipt, hevent⟩ := (h.vouched htraced).success hstatus
      exact ⟨i, l, b, a, hproves, ⟨hshows.1, hshows.2, hshows.3⟩, hreceipt, hevent⟩
    · refine ⟨saleId, _, _, _, _, (congrArg Intent.saleId hsame).trans hsale, rfl, rfl, rfl,
        congrArg some hdep.symm, rfl, ?_⟩
      change R.confirms saleId current.deploymentId _ _ _ _
      rw [hdep]
      exact hconfirms htraced (Option.some_inj.mp hreflected)
  replaces _ s current _ _ _ hmark := replaces_marked ((Revision.projected _ _ _ _ _).revised _)
    (hmark _ rfl) rfl rfl rfl rfl rfl rfl rfl (fun _ h => h) id id

theorem edit_unmatched {A : State → Prop} {entry : JournalEntry} :
    R.Edit run A entry (some run.uuid) fun current => { current with
      projectionObservation := some .inconsistent
      lastErrorCategory := some "FUNDING_SALE_ID_MISSING" } where
  id _ := rfl
  revision _ := rfl
  intent _ := rfl
  sound current h _ _ _ := by
    refine ⟨h.intent, fun htraced => ⟨fun hstatus => ?_, fun hstatus => ?_⟩,
      fun _ => Confirmed.of_observation (by simp)⟩
    · obtain ⟨i, hproves, hshows, hreceipt⟩ := (h.vouched htraced).reverted hstatus
      exact ⟨i, hproves, ⟨hshows.1, hshows.2, hshows.3⟩, hreceipt⟩
    · obtain ⟨i, l, b, a, hproves, hshows, hreceipt, hevent⟩ := (h.vouched htraced).success hstatus
      exact ⟨i, l, b, a, hproves, ⟨hshows.1, hshows.2, hshows.3⟩, hreceipt, hevent⟩
  replaces _ s current _ _ _ hmark := replaces_marked (Revision.unmatched.revised _)
    (hmark _ rfl) rfl rfl rfl rfl rfl rfl rfl (fun _ h => h) id id

theorem edit_hashRequired {A : State → Prop} {entry : JournalEntry} :
    R.Edit run A entry none fun current => { current with
      status := .unknown
      verificationAvailability := some .available
      lastErrorCategory := some "HASH_REQUIRED_FROM_WALLET_ACTIVITY" } where
  id _ := rfl
  revision _ := rfl
  intent _ := rfl
  sound current h _ _ _ := ⟨h.intent, fun _ => Vouched.of_status (by simp) (by simp),
    fun htraced => (h.confirmed htraced).congr rfl rfl rfl rfl rfl rfl rfl⟩
  replaces _ _ _ _ _ _ _ := ⟨⟨rfl, rfl, rfl, fun _ h => h, fun _ h => h, id, id, id, id⟩,
    Revision.hashRequired.revised _, .inr (.inr ⟨rfl, rfl⟩), fun _ => .inr rfl⟩

theorem edit_verifying {A : State → Prop} {entry : JournalEntry} :
    R.Edit run A entry none fun current => { current with
      verificationAvailability := some .verifying
      verificationRequestId := some run.uuid } where
  id _ := rfl
  revision _ := rfl
  intent _ := rfl
  sound _ h _ _ _ := h.congr rfl rfl rfl rfl
  replaces _ _ _ _ _ _ _ := ⟨⟨rfl, rfl, rfl, fun _ h => h, fun _ h => h, id, id, id, id⟩,
    Revision.verifying.revised _, .inr (.inl rfl), fun _ => .inr rfl⟩

end

section
variable {verifying : JournalEntry}

theorem observeProjection_triple (hE : R.Fits E) {entry : JournalEntry} (hentry : R.Sound entry)
    (hstarted : R.Started entry) {saleId : String} (hsale : entry.saleId = some saleId)
    (inclusion : Inclusion) (logIndex : ℕ) :
    Triple (R.discipline run E) (R.Known entry)
      (observeProjection entry run.uuid saleId inclusion logIndex) (fun _ _ => True)
      (fun _ _ => True) := by
  unfold observeProjection
  apply Triple.tryCatch (P := R.Known entry)
  · apply (Triple.request (known_stable entry) (fun s _ _ h => by cases h)
      fun answer s hanswer _ hknown => (⟨hanswer, hknown⟩ : E.answers _ answer ∧ _)).bind
    intro answer
    apply Triple.assume
    intro hanswer
    change Except JsError FundingObservation at answer
    cases answer with
    | error error => exact Triple.throw fun _ _ h => h
    | ok observation =>
      apply (conclude_triple (A := fun _ => True) hE steady_const hentry hstarted
        (fun time => edit_projection hentry hsale inclusion logIndex observation time
          fun htraced hreflected => hE.observations htraced _ _ _ _ _ _ _ hanswer hreflected) _).pre
      exact fun s _ h => ⟨trivial, h⟩
  · intro error
    apply (conclude_triple (A := fun _ => True) hE steady_const hentry hstarted
      (fun time => edit_verification fun current => ⟨_, _, _, rfl⟩) _).weaken
    · exact fun s _ h => ⟨trivial, h⟩
    · exact fun _ _ _ h => h
    · exact fun _ _ _ _ => trivial

theorem finalityFields_triple {P : State → Prop} {F : JsError → State → Prop}
    (hP : (R.discipline run E).Stable P) (observesFinality : Bool) (inclusion : Inclusion) :
    Triple (R.discipline run E) P (finalityFields observesFinality verifying inclusion)
      (fun finality s => IsFinality finality ∧ P s) F := by
  unfold finalityFields
  split
  · exact Triple.pure fun _ _ h => ⟨isFinality_of_fields .unobserved, h⟩
  · split
    · exact Triple.pure fun _ _ h => ⟨isFinality_of_fields .known, h⟩
    · apply (Triple.request hP (fun s _ _ h => by cases h) fun _ _ _ _ h => h).bind
      intro answer
      apply Triple.bind now_triple
      intro time
      exact Triple.pure fun _ _ h => ⟨isFinality_of_fields (.observed time _), h⟩

def Verifies (R : Rules) (run : Run) (verifying : JournalEntry) (s : State) : Prop :=
  (R.healthy → Own run verifying s.1) ∧ R.Known verifying s

theorem verifies_stable : (R.discipline run E).Stable (R.Verifies run verifying) :=
  (own_steady verifying).stable.and (known_stable verifying)

theorem recordFunding_triple (hE : R.Fits E) {finality : JournalEntry → JournalEntry}
    (hfinality : IsFinality finality) (hsound : R.Sound verifying) (hstarted : R.Started verifying)
    (observesFinality : Bool) (verifiedHash : String) (candidateHash : Option String)
    (inclusion : Inclusion) (logIndex : ℕ) (buyer : String) (amountWei : ℕ)
    (hproves : R.traced → R.proves verifying.intent
      (.includedSuccess inclusion (some logIndex) (some buyer) (some amountWei))) :
    Triple (R.discipline run E) (R.Verifies run verifying)
      (recordFunding run.uuid observesFinality verifying verifiedHash candidateHash inclusion
        logIndex buyer amountWei finality) (fun _ _ => True) (fun _ _ => True) := by
  unfold recordFunding
  apply Triple.bind now_triple
  intro time
  apply Triple.bind (M := fun updated s => R.Updated (fun _ _ => True) verifying updated.1 s)
  · apply Triple.awaited
    · apply (update_triple (B := fun _ _ => True) hE (own_steady verifying)
        (fun _ => steady_const) (fun _ _ _ => trivial) hsound hstarted
        (edit_funding hfinality verifiedHash candidateHash inclusion logIndex buyer amountWei time
          hsound hproves) fun _ _ _ _ _ _ _ _ => trivial).weaken
      · exact fun _ _ h => h
      · exact fun _ _ _ h => h
      · exact fun _ _ _ _ => trivial
    · exact fun updated => updated_stable (fun _ => steady_const) updated.1
    · exact fun _ => stable_const
    · intro s h
      cases h
  intro recorded
  split
  · exact Triple.pure fun _ _ _ => trivial
  intro start s hquiet hinv hupdated
  have hrecorded := hupdated.sound
  have hrecordedStarted := hupdated.started
  revert start s
  split
  · intro start s hquiet hinv hupdated
    exact ((conclude_triple (A := fun _ => True) hE steady_const hrecorded hrecordedStarted
      (fun _ => edit_unmatched) _).weaken (fun s _ h => ⟨trivial, h⟩) (fun _ _ _ h => h)
      fun _ _ _ _ => trivial) start s hquiet hinv hupdated.known
  · rename_i saleId hsale
    intro start s hquiet hinv hupdated
    split
    · exact (Triple.pure (P := fun _ => True) fun _ _ _ => trivial) start s hquiet hinv trivial
    · exact observeProjection_triple hE hrecorded hrecordedStarted hsale inclusion logIndex start s
        hquiet hinv hupdated.known

theorem recordSuccess_triple (hE : R.Fits E) {finality : JournalEntry → JournalEntry}
    (hfinality : IsFinality finality) (hsound : R.Sound verifying) (hstarted : R.Started verifying)
    (observesFinality : Bool) (verifiedHash : String) (candidateHash : Option String)
    (inclusion : Inclusion) (logIndex : Option ℕ) (buyer : Option String) (amountWei : Option ℕ)
    (hproves : R.traced → R.proves verifying.intent
      (.includedSuccess inclusion logIndex buyer amountWei)) :
    Triple (R.discipline run E) (R.Verifies run verifying)
      (recordSuccess run.uuid observesFinality verifying verifiedHash candidateHash inclusion
        (eventOf logIndex buyer amountWei) finality) (fun _ _ => True) (fun _ _ => True) := by
  unfold recordSuccess
  split
  · rename_i haction
    exact (conclude_triple hE (own_steady verifying) hsound hstarted
      (fun time => edit_success hfinality verifiedHash candidateHash inclusion logIndex buyer
        amountWei time hsound haction hproves) _).weaken (fun _ _ h => h) (fun _ _ _ h => h)
      fun _ _ _ _ => trivial
  · split
    · exact (conclude_triple hE (own_steady verifying) hsound hstarted
        (fun time => edit_verification fun current => ⟨_, _, _, rfl⟩) _).weaken (fun _ _ h => h)
        (fun _ _ _ h => h) fun _ _ _ _ => trivial
    · rename_i l b a hevent
      have hall : logIndex = some l ∧ buyer = some b ∧ amountWei = some a := by
        simpa [eventOf, Option.bind_eq_some_iff] using hevent
      obtain ⟨rfl, rfl, rfl⟩ := hall
      exact recordFunding_triple hE hfinality hsound hstarted observesFinality verifiedHash
        candidateHash inclusion l b a hproves

theorem recordInspection_triple (hE : R.Fits E) (hsound : R.Sound verifying)
    (hstarted : R.Started verifying) (observesFinality : Bool) (verifiedHash : String)
    (candidateHash : Option String) (inspected : InspectedTransaction)
    (hproves : R.traced → R.proves verifying.intent inspected) :
    Triple (R.discipline run E) (R.Verifies run verifying)
      (recordInspection run.uuid observesFinality verifying verifiedHash candidateHash inspected)
      (fun _ _ => True) (fun _ _ => True) := by
  have hconclude : ∀ {edits : String → JournalEntry → JournalEntry} (result : RecoveryResult),
      (∀ time, R.Edit run (fun s => R.healthy → Own run verifying s.1) verifying (some run.uuid)
        (edits time)) → Triple (R.discipline run E) (R.Verifies run verifying)
          (conclude verifying run.uuid edits result) (fun _ _ => True) (fun _ _ => True) := by
    intro edits result hedit
    exact (conclude_triple hE (own_steady verifying) hsound hstarted hedit result).weaken
      (fun _ _ h => h) (fun _ _ _ h => h) fun _ _ _ _ => trivial
  cases inspected with
  | replacementHashRequired _ _ =>
    exact hconclude _ fun _ => edit_verification fun current => ⟨_, _, _, rfl⟩
  | unavailable _ reason =>
    exact hconclude _ fun _ => edit_verification fun current => ⟨_, _, _, rfl⟩
  | intentMismatch _ reason =>
    exact hconclude _ fun _ => edit_verification fun current => ⟨_, _, _, rfl⟩
  | noncanonical _ => exact hconclude _ edit_noncanonical
  | replacedOrCancelled _ replacementHash kind =>
    exact hconclude _ (edit_replaced replacementHash kind)
  | pending _ => exact hconclude _ (edit_pending verifiedHash candidateHash)
  | includedReverted inclusion =>
    apply Triple.bind (finalityFields_triple verifies_stable observesFinality inclusion)
    intro finality
    apply Triple.assume
    intro hfinality
    exact hconclude _ fun time => edit_reverted hfinality verifiedHash candidateHash inclusion time
      hsound hproves
  | includedSuccess inclusion logIndex buyer amountWei =>
    apply Triple.bind (finalityFields_triple verifies_stable observesFinality inclusion)
    intro finality
    apply Triple.assume
    intro hfinality
    exact recordSuccess_triple hE hfinality hsound hstarted observesFinality verifiedHash
      candidateHash inclusion logIndex buyer amountWei hproves

def Unmarked (run : Run) (storage : LocalStorage) : Prop :=
  ∀ deploymentId, ∀ row ∈ rows storage deploymentId, row.verificationRequestId ≠ some run.uuid

theorem unmarked_steady : R.Steady run E fun s => R.healthy → Unmarked run s.1 := by
  constructor
  · intro a b _ hrely h hhealthy deploymentId row hrow hmark
    obtain ⟨older, holder, -, hmark', -⟩ := hrely.mark hhealthy _ row hrow hmark
    exact h hhealthy _ older holder hmark'
  · intro a b hquiet h hhealthy
    rw [hquiet.1]
    exact h hhealthy

theorem own_of_unmarked (entry : JournalEntry) (s : State)
    (h : R.healthy → Unmarked run s.1) : R.healthy → Own run entry s.1 :=
  fun hhealthy row hrow _ hmark => absurd hmark (h hhealthy _ row hrow)

theorem own_of_overwrites (current : JournalEntry) (time : String) (before after : State)
    (_ : R.Shared before.1) (h : R.healthy → Unmarked run before.1)
    (hover : Overwrites before.1 after.1 (({ current with
      verificationAvailability := some .verifying
      verificationRequestId := some run.uuid
      updatedAt := time } : JournalEntry).after current.version))
    (_ : R.Remembers run before.2 after.2) :
    R.healthy → Own run (({ current with
      verificationAvailability := some .verifying
      verificationRequestId := some run.uuid
      updatedAt := time } : JournalEntry).after current.version) after.1 := by
  intro hhealthy row hrow _ hmark
  rcases hover.mem hrow with ⟨rfl, -⟩ | ⟨hbefore, -⟩
  · rfl
  · exact absurd hmark (h hhealthy _ row hbefore)

theorem resumeJournalEntry_triple (hE : R.Fits E) {entry : JournalEntry} (hsound : R.Sound entry)
    (hstarted : R.Started entry) (observesFinality : Bool) (candidateHash : Option String)
    (mode : Mode) :
    Triple (R.discipline run E)
      (fun s => (R.healthy → Unmarked run s.1) ∧ R.Known entry s)
      (resumeJournalEntry run.uuid observesFinality entry candidateHash mode)
      (fun _ _ => True) (fun _ _ => True) := by
  unfold resumeJournalEntry
  apply Triple.bind (latest_triple (A := fun s => R.healthy → Unmarked run s.1) hE unmarked_steady
    hsound hstarted)
  intro latest
  apply Triple.pre (Triple.assume (p := R.Sound latest ∧ R.Started latest)
    (P := fun s => (R.healthy → Unmarked run s.1) ∧ R.Known latest s) ?_)
    fun s _ h => ⟨⟨h.2.sound, h.2.started⟩, h.1, h.2.known⟩
  rintro ⟨hlatest, hlatestStarted⟩
  split
  · apply Triple.bind (M := fun _ _ => True)
    · apply Triple.awaited (F := fun _ _ => True)
      · exact (update_triple (B := fun _ _ => True) hE unmarked_steady (fun _ => steady_const)
          (fun _ _ _ => trivial) hlatest hlatestStarted edit_hashRequired
          fun _ _ _ _ _ _ _ _ => trivial).weaken (fun _ _ h => h) (fun _ _ _ _ => trivial)
          fun _ _ _ _ => trivial
      · exact fun _ => stable_const
      · exact fun _ => stable_const
      · intro s h
        cases h
    · exact fun _ => Triple.pure fun _ _ _ => trivial
  · rename_i verifiedHash _
    apply Triple.bind (M := fun updated s =>
      R.Updated (fun e s => R.healthy → Own run e s.1) latest updated.1 s)
    · apply Triple.awaited (F := fun _ _ => True)
      · exact (update_triple hE unmarked_steady own_steady own_of_unmarked hlatest hlatestStarted
          edit_verifying own_of_overwrites).weaken (fun _ _ h => h) (fun _ _ _ h => h)
          fun _ _ _ _ => trivial
      · exact fun updated => updated_stable own_steady updated.1
      · exact fun _ => stable_const
      · intro s h
        cases h
    intro verifying
    apply Triple.pre (Triple.assume (p := R.Sound verifying.1 ∧ R.Started verifying.1)
      (P := R.Verifies run verifying.1) ?_)
      fun s _ h => ⟨⟨h.sound, h.started⟩, fun hhealthy => h.after hhealthy hhealthy, h.known⟩
    rintro ⟨hverifying, hverifyingStarted⟩
    apply (Triple.request verifies_stable (fun s _ _ h => by cases h)
      fun answer s hanswer _ hknown => (⟨hanswer, hknown⟩ : E.answers _ answer ∧ _)).bind
    intro answer
    apply Triple.assume
    intro hanswer
    change Except JsError InspectedTransaction at answer
    cases answer with
    | error error => exact Triple.throw fun _ _ _ => trivial
    | ok inspected =>
      exact recordInspection_triple hE hverifying hverifyingStarted observesFinality verifiedHash
        candidateHash inspected fun htraced =>
          hE.inspections htraced _ _ _ _ hverifying hanswer

theorem recheck_triple (hE : R.Fits E) (observesFinality : Bool)
    (deploymentId clientOperationId : String) (candidateHash : Option String) (mode : Mode) :
    Triple (R.discipline run E) (fun s => R.healthy → Unmarked run s.1)
      (recheck run.uuid observesFinality deploymentId clientOperationId candidateHash mode)
      (fun _ _ => True) (fun _ _ => True) := by
  unfold recheck
  apply (Triple.request unmarked_steady.stable (fun s _ _ h => by cases h)
    fun _ _ _ _ h => h).bind
  intro acquired
  split
  · apply Triple.bind (find_triple hE unmarked_steady deploymentId clientOperationId)
    intro found
    cases found with
    | none => exact Triple.pure fun _ _ _ => trivial
    | some current =>
      apply Triple.pre (Triple.assume (p := R.Sound current ∧ R.Started current)
        (P := fun s => (R.healthy → Unmarked run s.1) ∧ R.Known current s) ?_)
        fun s _ h => ⟨⟨(h.2 current rfl).sound, (h.2 current rfl).started⟩, h.1,
          (h.2 current rfl).known⟩
      rintro ⟨hcurrent, hcurrentStarted⟩
      apply Triple.bind (M := fun _ _ => True)
      · apply Triple.awaited (F := fun _ _ => True)
        · exact resumeJournalEntry_triple hE hcurrent hcurrentStarted observesFinality
            candidateHash mode
        · exact fun _ => stable_const
        · exact fun _ => stable_const
        · intro s h
          cases h
      · exact fun _ => Triple.pure fun _ _ _ => trivial
  · exact Triple.pure fun _ _ _ => trivial

end

end Rules

end MotorCove.Web
