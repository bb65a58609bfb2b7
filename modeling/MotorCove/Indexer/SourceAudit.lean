import MotorCove.Indexer.LogScope
import MotorCove.Indexer.RebuildSource
import MotorCove.Indexer.SalesReader

/-!
# The source audit

Local blocks and their recorded evidence are compared with the blocks and logs
of a second provider. Both sides are looked up by height and their logs by
identity, and whatever differs is listed. Nothing is listed exactly when the
sides agree at every height of the range, whatever the order of their blocks
and logs.
-/

set_option autoImplicit false

namespace MotorCove.Indexer
open MotorCove.Text MotorCove.Fallible

structure SecondaryAuditBlock where
  number : ℕ
  hash : String
  parentHash : String
  events : List Envelope
  deriving DecidableEq, Repr

inductive MismatchReason where
  | missingLocalBlock
  | missingSecondaryBlock
  | localScanIncomplete
  | logScopeMismatch
  | blockHashMismatch
  | parentHashMismatch
  | localSourceIncomplete
  | scopedLogDigestMismatch
  | missingLocalLog
  | logContentMismatch
  | extraLocalLog
  deriving DecidableEq, Repr

structure SourceAuditMismatch where
  blockNumber : ℕ
  reason : MismatchReason
  identity : Option String
  deriving DecidableEq, Repr

inductive SourceResult where
  | matched
  | mismatched
  deriving DecidableEq, Repr

structure SourceComparison where
  result : SourceResult
  primaryEvidenceDigest : String
  secondaryEvidenceDigest : String
  mismatches : List SourceAuditMismatch
  deriving DecidableEq, Repr

/-- What the digest of a side lists for each block. -/
structure AuditSummary where
  number : ℕ
  hash : String
  parentHash : String
  logScopeHash : String
  count : ℕ
  digest : String
  deriving DecidableEq, Repr

def ordered (events : List Envelope) : List Envelope :=
  events.insertionSort fun left right =>
    left.transactionIndex < right.transactionIndex ∨
      left.transactionIndex = right.transactionIndex ∧ left.logIndex ≤ right.logIndex

def logIdentity (event : Envelope) : String :=
  lower event.blockHash ++ ":" ++ lower event.transactionHash ++ ":" ++ Nat.repr event.logIndex

/-- A map from identities: the last log of an identity is found. -/
def byIdentity (events : List Envelope) (identity : String) : Option Envelope :=
  events.reverse.find? fun event => logIdentity event = identity

def mismatchIf (c : Prop) [Decidable c] (blockNumber : ℕ) (reason : MismatchReason) :
    List SourceAuditMismatch :=
  if c then [⟨blockNumber, reason, none⟩] else []

section
variable (evidenceDigest : Evidence → String) (summaryDigest : List AuditSummary → String)

def compareBlock (expectedLogScopeHash : String) (blockNumber : ℕ)
    (localBlock : SourceAuditBlock) (secondary : SecondaryAuditBlock) :
    List SourceAuditMismatch :=
  let localEvents := ordered localBlock.events
  let secondaryEvents := ordered secondary.events
  mismatchIf (localBlock.scanComplete = false) blockNumber .localScanIncomplete ++
  mismatchIf (lower localBlock.logScopeHash ≠ lower expectedLogScopeHash) blockNumber
    .logScopeMismatch ++
  mismatchIf (lower localBlock.blockHash ≠ lower secondary.hash) blockNumber .blockHashMismatch ++
  mismatchIf (lower localBlock.parentHash ≠ lower secondary.parentHash) blockNumber
    .parentHashMismatch ++
  mismatchIf (localBlock.observedLogCount ≠ localEvents.length ∨
    lower localBlock.observedLogDigest ≠
      lower (evidenceDigest (.envelopes (localEvents.map eventEnvelope)))) blockNumber
    .localSourceIncomplete ++
  mismatchIf (localBlock.observedLogCount ≠ secondaryEvents.length ∨
    lower localBlock.observedLogDigest ≠
      lower (evidenceDigest (.envelopes (secondaryEvents.map eventEnvelope)))) blockNumber
    .scopedLogDigestMismatch ++
  secondaryEvents.filterMap (fun event =>
    match byIdentity localEvents (logIdentity event) with
    | none => some ⟨blockNumber, .missingLocalLog, some (logIdentity event)⟩
    | some counterpart =>
      if eventEnvelope counterpart ≠ eventEnvelope event then
        some ⟨blockNumber, .logContentMismatch, some (logIdentity event)⟩
      else none) ++
  localEvents.filterMap fun event =>
    if (byIdentity secondaryEvents (logIdentity event)).isNone then
      some ⟨blockNumber, .extraLocalLog, some (logIdentity event)⟩
    else none

def compareHeight (localBlocks : List SourceAuditBlock)
    (secondaryBlocks : List SecondaryAuditBlock) (expectedLogScopeHash : String)
    (blockNumber : ℕ) : List SourceAuditMismatch :=
  match localBlocks.reverse.find? fun b => b.blockNumber = blockNumber,
    secondaryBlocks.reverse.find? fun b => b.number = blockNumber with
  | none, _ => [⟨blockNumber, .missingLocalBlock, none⟩]
  | some _, none => [⟨blockNumber, .missingSecondaryBlock, none⟩]
  | some localBlock, some secondary =>
    compareBlock evidenceDigest expectedLogScopeHash blockNumber localBlock secondary

def localSummary (b : SourceAuditBlock) : AuditSummary where
  number := b.blockNumber
  hash := lower b.blockHash
  parentHash := lower b.parentHash
  logScopeHash := lower b.logScopeHash
  count := b.observedLogCount
  digest := lower b.observedLogDigest

def secondarySummary (expectedLogScopeHash : String) (b : SecondaryAuditBlock) :
    AuditSummary where
  number := b.number
  hash := lower b.hash
  parentHash := lower b.parentHash
  logScopeHash := lower expectedLogScopeHash
  count := b.events.length
  digest := evidenceDigest (.envelopes ((ordered b.events).map eventEnvelope))

def compareSourceEvidence (localBlocks : List SourceAuditBlock)
    (secondaryBlocks : List SecondaryAuditBlock) (fromBlock toBlock : ℕ)
    (expectedLogScopeHash : String) : SourceComparison :=
  let mismatches := (List.range' fromBlock (toBlock + 1 - fromBlock)).flatMap
    (compareHeight evidenceDigest localBlocks secondaryBlocks expectedLogScopeHash)
  { result := if mismatches = [] then .matched else .mismatched
    primaryEvidenceDigest := summaryDigest (localBlocks.map localSummary)
    secondaryEvidenceDigest :=
      summaryDigest (secondaryBlocks.map (secondarySummary evidenceDigest expectedLogScopeHash))
    mismatches }

/-- Two blocks of a height agree, in every field of the envelopes of their logs. -/
structure BlocksAgree (expectedLogScopeHash : String) (localBlock : SourceAuditBlock)
    (secondary : SecondaryAuditBlock) : Prop where
  scanComplete : localBlock.scanComplete = true
  scope : lower localBlock.logScopeHash = lower expectedLogScopeHash
  hash : lower localBlock.blockHash = lower secondary.hash
  parentHash : lower localBlock.parentHash = lower secondary.parentHash
  count : localBlock.observedLogCount = localBlock.events.length
  digest : lower localBlock.observedLogDigest =
    evidenceDigest (.envelopes ((ordered localBlock.events).map eventEnvelope))
  events : (ordered localBlock.events).map eventEnvelope =
    (ordered secondary.events).map eventEnvelope

/-- Every height of a range has blocks on both sides that agree. -/
def SourcesAgree (localBlocks : List SourceAuditBlock)
    (secondaryBlocks : List SecondaryAuditBlock) (fromBlock toBlock : ℕ)
    (expectedLogScopeHash : String) : Prop :=
  ∀ n, fromBlock ≤ n → n ≤ toBlock → ∃ localBlock ∈ localBlocks, ∃ secondary ∈ secondaryBlocks,
    localBlock.blockNumber = n ∧ secondary.number = n ∧
      BlocksAgree evidenceDigest expectedLogScopeHash localBlock secondary

end

/-- The logs of one block have their own places and identities. -/
structure DistinctLogs (events : List Envelope) : Prop where
  places : (events.map fun e => (e.transactionIndex, e.logIndex)).Nodup
  identities : (events.map logIdentity).Nodup

structure DistinctBlocks (localBlocks : List SourceAuditBlock)
    (secondaryBlocks : List SecondaryAuditBlock) : Prop where
  localNumbers : (localBlocks.map SourceAuditBlock.blockNumber).Nodup
  secondaryNumbers : (secondaryBlocks.map SecondaryAuditBlock.number).Nodup
  localLogs : ∀ b ∈ localBlocks, DistinctLogs b.events
  secondaryLogs : ∀ b ∈ secondaryBlocks, DistinctLogs b.events

theorem find?_reverse {α κ : Type} [DecidableEq κ] {l : List α} {key : α → κ} {k : κ}
    (hnodup : (l.map key).Nodup) {a : α} :
    l.reverse.find? (fun b => key b = k) = some a ↔ a ∈ l ∧ key a = k := by
  constructor
  · intro h
    exact ⟨List.mem_reverse.mp (List.mem_of_find?_eq_some h), by simpa using List.find?_some h⟩
  · rintro ⟨ha, rfl⟩
    cases hfind : l.reverse.find? fun b => key b = key a with
    | none =>
      have hno := List.find?_eq_none.mp hfind a (List.mem_reverse.mpr ha)
      exact absurd (decide_eq_true rfl) hno
    | some b =>
      have hkey : key b = key a := by simpa using List.find?_some hfind
      have hmem := List.mem_reverse.mp (List.mem_of_find?_eq_some hfind)
      rw [List.inj_on_of_nodup_map hnodup hmem ha hkey]

theorem ordered_mem {events : List Envelope} {e : Envelope} : e ∈ ordered events ↔ e ∈ events :=
  List.mem_insertionSort _

theorem ordered_perm (events : List Envelope) : (ordered events).Perm events :=
  List.perm_insertionSort _ events

theorem ordered_congr {events events' : List Envelope} (hperm : events.Perm events')
    (hplaces : (events.map fun e => (e.transactionIndex, e.logIndex)).Nodup) :
    ordered events = ordered events' := by
  have hplaces' := (hperm.map fun e => (e.transactionIndex, e.logIndex)).nodup_iff.mp hplaces
  have hsorted : (ordered events').Pairwise fun left right =>
      left.transactionIndex < right.transactionIndex ∨
        left.transactionIndex = right.transactionIndex ∧ left.logIndex ≤ right.logIndex := by
    have : Std.Total fun left right : Envelope =>
        left.transactionIndex < right.transactionIndex ∨
          left.transactionIndex = right.transactionIndex ∧ left.logIndex ≤ right.logIndex :=
      ⟨fun _ _ => by omega⟩
    have : IsTrans Envelope fun left right =>
        left.transactionIndex < right.transactionIndex ∨
          left.transactionIndex = right.transactionIndex ∧ left.logIndex ≤ right.logIndex :=
      ⟨fun _ _ _ _ _ => by omega⟩
    exact List.pairwise_insertionSort _ events'
  apply insertionSort_eq (fun a b => by omega) (fun a b c h₁ h₂ => by omega)
  · exact List.Nodup.of_map _ hplaces
  · exact (ordered_perm events').nodup_iff.mpr (List.Nodup.of_map _ hplaces')
  · intro e
    rw [ordered_mem]
    exact hperm.mem_iff
  · exact hsorted
  · intro a ha b hb h₁ h₂
    apply List.inj_on_of_nodup_map hplaces' (ordered_mem.mp ha) (ordered_mem.mp hb)
    rw [Prod.mk.injEq]
    omega

@[simp] theorem logIdentity_eventEnvelope (e : Envelope) :
    logIdentity (eventEnvelope e) = logIdentity e := by
  simp [logIdentity, eventEnvelope]

@[simp] theorem mismatchIf_nil {c : Prop} [Decidable c] {blockNumber : ℕ}
    {reason : MismatchReason} : mismatchIf c blockNumber reason = [] ↔ ¬c := by
  unfold mismatchIf
  split <;> simp_all

section
variable {evidenceDigest : Evidence → String} {summaryDigest : List AuditSummary → String}
  {expectedLogScopeHash : String} {localBlocks : List SourceAuditBlock}
  {secondaryBlocks : List SecondaryAuditBlock} {fromBlock toBlock : ℕ}

theorem logs_agree {localEvents secondaryEvents : List Envelope}
    (hidentities : (localEvents.map logIdentity).Nodup)
    (hevents : localEvents.map eventEnvelope = secondaryEvents.map eventEnvelope) :
    (∀ event ∈ secondaryEvents, ∃ counterpart,
      byIdentity localEvents (logIdentity event) = some counterpart ∧
        eventEnvelope counterpart = eventEnvelope event) ∧
    (∀ event ∈ localEvents, byIdentity secondaryEvents (logIdentity event) ≠ none) := by
  constructor
  · intro event hevent
    have hmem : eventEnvelope event ∈ localEvents.map eventEnvelope := by
      rw [hevents]
      exact List.mem_map_of_mem hevent
    obtain ⟨counterpart, hcounterpart, henvelope⟩ := List.mem_map.mp hmem
    refine ⟨counterpart, (find?_reverse hidentities).mpr ⟨hcounterpart, ?_⟩, henvelope⟩
    rw [← logIdentity_eventEnvelope, henvelope, logIdentity_eventEnvelope]
  · intro event hevent hnone
    have hmem : eventEnvelope event ∈ secondaryEvents.map eventEnvelope := by
      rw [← hevents]
      exact List.mem_map_of_mem hevent
    obtain ⟨counterpart, hcounterpart, henvelope⟩ := List.mem_map.mp hmem
    have hno := List.find?_eq_none.mp hnone counterpart (List.mem_reverse.mpr hcounterpart)
    apply hno
    rw [decide_eq_true_eq, ← logIdentity_eventEnvelope, henvelope, logIdentity_eventEnvelope]

/-- Nothing is listed for two blocks exactly when they agree. -/
theorem compareBlock_nil (hinjective : Function.Injective evidenceDigest)
    (hlower : ∀ e, lower (evidenceDigest e) = evidenceDigest e) {blockNumber : ℕ}
    {localBlock : SourceAuditBlock} {secondary : SecondaryAuditBlock}
    (hidentities : (localBlock.events.map logIdentity).Nodup) :
    compareBlock evidenceDigest expectedLogScopeHash blockNumber localBlock secondary = [] ↔
      BlocksAgree evidenceDigest expectedLogScopeHash localBlock secondary := by
  have hlength : ∀ events, (ordered events).length = events.length :=
    fun events => (ordered_perm events).length_eq
  simp only [compareBlock, List.append_eq_nil_iff, mismatchIf_nil, List.filterMap_eq_nil_iff,
    hlower, hlength, not_or, not_not, Bool.not_eq_false]
  constructor
  · rintro ⟨⟨⟨⟨⟨⟨⟨hcomplete, hscope⟩, hhash⟩, hparent⟩, hcount, hdigest⟩, _, hdigest'⟩, _⟩, _⟩
    constructor
    · exact hcomplete
    · exact hscope
    · exact hhash
    · exact hparent
    · exact hcount
    · exact hdigest
    · exact Evidence.envelopes.inj (hinjective (hdigest.symm.trans hdigest'))
  · intro h
    have hidentities' : ((ordered localBlock.events).map logIdentity).Nodup :=
      ((ordered_perm _).map _).nodup_iff.mpr hidentities
    obtain ⟨hmissing, hextra⟩ := logs_agree hidentities' h.events
    have hsecondary : localBlock.events.length = secondary.events.length := by
      have hlen := congrArg List.length h.events
      rwa [List.length_map, List.length_map, hlength, hlength] at hlen
    refine ⟨⟨⟨⟨⟨⟨⟨h.scanComplete, h.scope⟩, h.hash⟩, h.parentHash⟩, h.count, h.digest⟩,
      h.count.trans hsecondary, ?_⟩, ?_⟩, ?_⟩
    · rw [h.digest, h.events]
    · intro event hevent
      obtain ⟨counterpart, hfound, henvelope⟩ := hmissing event hevent
      simp only [hfound, henvelope, ne_eq, not_true_eq_false, if_false]
    · intro event hevent
      have hsome := Option.isNone_eq_false_iff.mpr
        (Option.isSome_iff_ne_none.mpr (hextra event hevent))
      simp only [hsome, Bool.false_eq_true, if_false]

theorem compareHeight_nil (hinjective : Function.Injective evidenceDigest)
    (hlower : ∀ e, lower (evidenceDigest e) = evidenceDigest e)
    (hdistinct : DistinctBlocks localBlocks secondaryBlocks) {n : ℕ} :
    compareHeight evidenceDigest localBlocks secondaryBlocks expectedLogScopeHash n = [] ↔
      ∃ localBlock ∈ localBlocks, ∃ secondary ∈ secondaryBlocks,
        localBlock.blockNumber = n ∧ secondary.number = n ∧
          BlocksAgree evidenceDigest expectedLogScopeHash localBlock secondary := by
  have hlocal : ∀ b, localBlocks.reverse.find? (fun b => b.blockNumber = n) = some b ↔
      b ∈ localBlocks ∧ b.blockNumber = n := fun b => find?_reverse hdistinct.localNumbers
  have hsecondary : ∀ b, secondaryBlocks.reverse.find? (fun b => b.number = n) = some b ↔
      b ∈ secondaryBlocks ∧ b.number = n := fun b => find?_reverse hdistinct.secondaryNumbers
  unfold compareHeight
  cases hb : localBlocks.reverse.find? fun b => b.blockNumber = n with
  | none =>
    simp only [List.cons_ne_nil, false_iff]
    rintro ⟨b, hmem, _, _, hn, _⟩
    rw [(hlocal b).mpr ⟨hmem, hn⟩] at hb
    cases hb
  | some b =>
    obtain ⟨hmem, hn⟩ := (hlocal b).mp hb
    cases hc : secondaryBlocks.reverse.find? fun b => b.number = n with
    | none =>
      simp only [List.cons_ne_nil, false_iff]
      rintro ⟨_, _, c, hmem', _, hn', _⟩
      rw [(hsecondary c).mpr ⟨hmem', hn'⟩] at hc
      cases hc
    | some c =>
      obtain ⟨hmem', hn'⟩ := (hsecondary c).mp hc
      simp only [compareBlock_nil hinjective hlower (hdistinct.localLogs b hmem).identities]
      constructor
      · intro h
        exact ⟨b, hmem, c, hmem', hn, hn', h⟩
      · rintro ⟨b', hb', c', hc', hbn, hcn, h⟩
        have heq := hb.symm.trans ((hlocal b').mpr ⟨hb', hbn⟩)
        have heq' := hc.symm.trans ((hsecondary c').mpr ⟨hc', hcn⟩)
        rw [Option.some.inj heq, Option.some.inj heq']
        exact h

theorem matched_iff : (compareSourceEvidence evidenceDigest summaryDigest localBlocks
    secondaryBlocks fromBlock toBlock expectedLogScopeHash).result = .matched ↔
      ∀ n, fromBlock ≤ n → n ≤ toBlock →
        compareHeight evidenceDigest localBlocks secondaryBlocks expectedLogScopeHash n = [] := by
  simp only [compareSourceEvidence, ite_eq_left_iff, reduceCtorEq, imp_false, not_not,
    List.flatMap_eq_nil_iff, List.mem_range'_1]
  constructor
  · intro h n hfrom hto
    exact h n ⟨hfrom, by omega⟩
  · intro h n hn
    exact h n hn.1 (by omega)

/-- The comparison matches exactly when the sources agree. -/
theorem compareSourceEvidence_matched (hinjective : Function.Injective evidenceDigest)
    (hlower : ∀ e, lower (evidenceDigest e) = evidenceDigest e)
    (hdistinct : DistinctBlocks localBlocks secondaryBlocks) :
    (compareSourceEvidence evidenceDigest summaryDigest localBlocks secondaryBlocks fromBlock
      toBlock expectedLogScopeHash).result = .matched ↔
      SourcesAgree evidenceDigest localBlocks secondaryBlocks fromBlock toBlock
        expectedLogScopeHash := by
  rw [matched_iff]
  exact forall_congr' fun n => forall_congr' fun _ => forall_congr' fun _ =>
    compareHeight_nil hinjective hlower hdistinct

/-- Two lists have the same blocks of a range, up to what `R` relates. -/
structure SameInRange {β : Type} (number : β → ℕ) (R : β → β → Prop) (fromBlock toBlock : ℕ)
    (bs bs' : List β) : Prop where
  forth : ∀ b ∈ bs, fromBlock ≤ number b → number b ≤ toBlock → ∃ b' ∈ bs', R b b'
  back : ∀ b' ∈ bs', fromBlock ≤ number b' → number b' ≤ toBlock → ∃ b ∈ bs, R b b'

/-- The same block with its logs in another order. -/
structure LocalRelisted (b b' : SourceAuditBlock) : Prop where
  block : b' = { b with events := b'.events }
  events : b.events.Perm b'.events

structure SecondaryRelisted (b b' : SecondaryAuditBlock) : Prop where
  block : b' = { b with events := b'.events }
  events : b.events.Perm b'.events

theorem find?_sameInRange {β : Type} {number : β → ℕ} {R : β → β → Prop} {bs bs' : List β}
    (h : SameInRange number R fromBlock toBlock bs bs') (hR : ∀ b b', R b b' → number b' = number b)
    (hnodup : (bs.map number).Nodup) (hnodup' : (bs'.map number).Nodup) {n : ℕ}
    (hfrom : fromBlock ≤ n) (hto : n ≤ toBlock) :
    (bs.reverse.find? (fun b => number b = n) = none ∧
      bs'.reverse.find? (fun b => number b = n) = none) ∨
    ∃ b b', b ∈ bs ∧ R b b' ∧ bs.reverse.find? (fun b => number b = n) = some b ∧
      bs'.reverse.find? (fun b => number b = n) = some b' := by
  cases hb : bs.reverse.find? fun b => number b = n with
  | some b =>
    right
    obtain ⟨hmem, rfl⟩ := (find?_reverse hnodup).mp hb
    obtain ⟨b', hmem', hbb'⟩ := h.forth b hmem hfrom hto
    exact ⟨b, b', hmem, hbb', rfl, (find?_reverse hnodup').mpr ⟨hmem', hR b b' hbb'⟩⟩
  | none =>
    left
    refine ⟨rfl, ?_⟩
    cases hb' : bs'.reverse.find? fun b => number b = n with
    | none => rfl
    | some b' =>
      obtain ⟨hmem', rfl⟩ := (find?_reverse hnodup').mp hb'
      obtain ⟨b, hmem, hbb'⟩ := h.back b' hmem' hfrom hto
      rw [(find?_reverse hnodup).mpr ⟨hmem, (hR b b' hbb').symm⟩] at hb
      cases hb

theorem compareBlock_congr {blockNumber : ℕ} {localBlock localBlock' : SourceAuditBlock}
    {secondary secondary' : SecondaryAuditBlock} (hlocal : LocalRelisted localBlock localBlock')
    (hsecondary : SecondaryRelisted secondary secondary')
    (hlogs : DistinctLogs localBlock.events) (hlogs' : DistinctLogs secondary.events) :
    compareBlock evidenceDigest expectedLogScopeHash blockNumber localBlock' secondary' =
      compareBlock evidenceDigest expectedLogScopeHash blockNumber localBlock secondary := by
  rw [hlocal.block, hsecondary.block]
  simp only [compareBlock, ordered_congr hlocal.events hlogs.places,
    ordered_congr hsecondary.events hlogs'.places]

theorem compareSourceEvidence_congr {localBlocks' : List SourceAuditBlock}
    {secondaryBlocks' : List SecondaryAuditBlock}
    (hdistinct : DistinctBlocks localBlocks secondaryBlocks)
    (hdistinct' : DistinctBlocks localBlocks' secondaryBlocks')
    (hlocal : SameInRange SourceAuditBlock.blockNumber LocalRelisted fromBlock toBlock
      localBlocks localBlocks')
    (hsecondary : SameInRange SecondaryAuditBlock.number SecondaryRelisted fromBlock toBlock
      secondaryBlocks secondaryBlocks') :
    let compared := compareSourceEvidence evidenceDigest summaryDigest localBlocks secondaryBlocks
      fromBlock toBlock expectedLogScopeHash
    let compared' := compareSourceEvidence evidenceDigest summaryDigest localBlocks'
      secondaryBlocks' fromBlock toBlock expectedLogScopeHash
    compared'.result = compared.result ∧ compared'.mismatches = compared.mismatches := by
  have hheight : ∀ n ∈ List.range' fromBlock (toBlock + 1 - fromBlock),
      compareHeight evidenceDigest localBlocks' secondaryBlocks' expectedLogScopeHash n =
        compareHeight evidenceDigest localBlocks secondaryBlocks expectedLogScopeHash n := by
    intro n hn
    rw [List.mem_range'_1] at hn
    have hto : n ≤ toBlock := by omega
    unfold compareHeight
    rcases find?_sameInRange hlocal (fun b b' h => by rw [h.block]) hdistinct.localNumbers
      hdistinct'.localNumbers hn.1 hto with ⟨hb, hb'⟩ | ⟨b, b', hmem, hbb', hb, hb'⟩
    · simp only [hb, hb']
    · rcases find?_sameInRange hsecondary (fun b b' h => by rw [h.block])
        hdistinct.secondaryNumbers hdistinct'.secondaryNumbers hn.1 hto with
        ⟨hc, hc'⟩ | ⟨c, c', hmem', hcc', hc, hc'⟩
      · simp only [hb, hb', hc, hc']
      · simp only [hb, hb', hc, hc']
        exact compareBlock_congr hbb' hcc' (hdistinct.localLogs b hmem)
          (hdistinct.secondaryLogs c hmem')
  have hmismatches := List.flatMap_congr hheight
  simp only [compareSourceEvidence, hmismatches, and_self]

variable {B : Blocks} {collectionAddress scope : String} {db : Database}

/-- Blocks and logs read from the chain that the hashes name: each block is what
its hash names, with its logs in any order, and the heights of a range have the
canonical blocks of the store. -/
structure SameChain (B : Blocks) (db : Database) (fromBlock toBlock : ℕ)
    (secondaryBlocks : List SecondaryAuditBlock) : Prop where
  numbers : (secondaryBlocks.map SecondaryAuditBlock.number).Nodup
  named : ∀ s ∈ secondaryBlocks, s.number = B.number (lower s.hash) ∧
    lower s.parentHash = B.parentHash (lower s.hash)
  logs : ∀ s ∈ secondaryBlocks, (s.events.map eventEnvelope).Perm
    ((B.events (lower s.hash)).map OrderedEvent.toEnvelope)
  canonical : ∀ b ∈ db.indexedBlocks.rows, b.isCanonical = true → fromBlock ≤ b.blockNumber →
    b.blockNumber ≤ toBlock → ∃ s ∈ secondaryBlocks, lower s.hash = b.blockHash

theorem append_separator (xs ys : List Char) {ds es : List Char} (hds : ':' ∉ ds) (hes : ':' ∉ es)
    (h : xs ++ ':' :: ds = ys ++ ':' :: es) : ds = es := by
  rcases List.append_eq_append_iff.mp h with ⟨as, _, has⟩ | ⟨as, _, has⟩
  · cases as with
    | nil => exact (List.cons.inj has).2
    | cons a as =>
      have htail := (List.cons.inj has).2
      exact absurd (htail ▸ List.mem_append_right as List.mem_cons_self) hds
  · cases as with
    | nil => exact (List.cons.inj has).2.symm
    | cons a as =>
      have htail := (List.cons.inj has).2
      exact absurd (htail ▸ List.mem_append_right as List.mem_cons_self) hes

theorem logIndex_of_logIdentity {a b : Envelope} (h : logIdentity a = logIdentity b) :
    a.logIndex = b.logIndex := by
  have hlist := congrArg String.toList h
  simp only [logIdentity, String.toList_append, List.append_assoc] at hlist
  have hdigits : ∀ n : ℕ, ':' ∉ (Nat.repr n).toList := by
    intro n hmem
    exact absurd (repr_isDigit n _ hmem) (by decide)
  apply repr_injective.mp
  apply String.toList_inj.mp
  apply append_separator ((lower a.blockHash).toList ++ ":".toList ++
    (lower a.transactionHash).toList) ((lower b.blockHash).toList ++ ":".toList ++
    (lower b.transactionHash).toList) (hdigits _) (hdigits _)
  simp only [List.append_assoc]
  exact hlist

theorem distinctLogs_of_logIndex {events : List Envelope}
    (h : (events.map fun e => e.logIndex).Nodup) : DistinctLogs events := by
  have hnodup : events.Nodup := List.Nodup.of_map _ h
  constructor
  · apply hnodup.map_on
    intro a ha b hb hab
    exact List.inj_on_of_nodup_map h ha hb (Prod.mk.inj hab).2
  · apply hnodup.map_on
    intro a ha b hb hab
    exact List.inj_on_of_nodup_map h ha hb (logIndex_of_logIdentity hab)

theorem ordered_map_eventEnvelope (events : List Envelope) :
    (ordered events).map eventEnvelope = ordered (events.map eventEnvelope) :=
  List.map_insertionSort _ _ _ _ fun _ _ _ _ => Iff.rfl

def Blocks.envelopes (B : Blocks) (h : String) : List Envelope :=
  (B.events h).map OrderedEvent.toEnvelope

theorem Blocks.envelopes_lowered (h : String) :
    (B.envelopes h).map eventEnvelope = B.envelopes h := by
  rw [Blocks.envelopes, List.map_map]
  apply List.map_congr_left
  intro e he
  exact congrArg OrderedEvent.toEnvelope (B.located h e he).2.2

theorem Blocks.envelopes_distinct (h : String) :
    ((B.envelopes h).map fun e => e.logIndex).Nodup := by
  rw [Blocks.envelopes, List.map_map]
  exact B.distinct h

theorem Blocks.envelopes_ordered (h : String) : ordered (B.envelopes h) = B.envelopes h := by
  apply List.Pairwise.insertionSort_eq
  rw [Blocks.envelopes, List.pairwise_map]
  refine (B.sorted h).imp_of_mem fun {a b} ha hb hab => ?_
  have hn := (B.located h a ha).1.trans (B.located h b hb).1.symm
  rcases hab with hlt | ⟨_, hle⟩
  · omega
  · exact hle

theorem Stored.sourceAuditBlock_events (h : Stored evidenceDigest B db) {b : BlockRow}
    (hb : b ∈ db.indexedBlocks.rows) :
    (sourceAuditBlock db b).events = B.envelopes b.blockHash := by
  show (blockEvents b.blockHash db).map (fun r => r.toEnvelope) = _
  rw [h.blockEvents_eq hb, Blocks.rows, Blocks.envelopes, List.map_map]
  refine List.map_congr_left fun e he => ?_
  -- the logs of the chain are in the case they are stored in
  exact congrArg OrderedEvent.toEnvelope (B.located b.blockHash e he).2.2

theorem SameChain.ordered_events {s : SecondaryAuditBlock}
    (h : SameChain B db fromBlock toBlock secondaryBlocks) (hs : s ∈ secondaryBlocks) :
    (ordered s.events).map eventEnvelope = B.envelopes (lower s.hash) ∧ DistinctLogs s.events := by
  have hperm := h.logs s hs
  have hlogs : (s.events.map fun e => e.logIndex).Nodup := by
    have hnodup := (hperm.map fun e => e.logIndex).nodup_iff.mpr (B.envelopes_distinct _)
    rwa [List.map_map] at hnodup
  constructor
  · have hplaces : ((s.events.map eventEnvelope).map fun e =>
        (e.transactionIndex, e.logIndex)).Nodup := by
      rw [List.map_map]
      exact (distinctLogs_of_logIndex hlogs).places
    rw [ordered_map_eventEnvelope, ordered_congr hperm hplaces]
    exact B.envelopes_ordered _
  · exact distinctLogs_of_logIndex hlogs

theorem blocksAgree (h : Stored evidenceDigest B db) (hscoped : Scoped scope db)
    (hlower : ∀ e, lower (evidenceDigest e) = evidenceDigest e)
    (hchain : SameChain B db fromBlock toBlock secondaryBlocks) {b : BlockRow}
    (hb : b ∈ db.indexedBlocks.rows) {s : SecondaryAuditBlock} (hs : s ∈ secondaryBlocks)
    (hhash : lower s.hash = b.blockHash) :
    BlocksAgree evidenceDigest scope (sourceAuditBlock db b) s := by
  have hnamed := h.named b hb
  have hevents := h.sourceAuditBlock_events hb
  constructor
  · exact hnamed.scanComplete
  · exact congrArg lower (hscoped.rows b hb)
  · exact hnamed.lower.trans hhash.symm
  · have hparent := (hchain.named s hs).2
    rw [hhash, ← hnamed.parentHash] at hparent
    show lower b.parentHash = _
    rw [← hparent, lower_lower]
  · rw [hevents, Blocks.envelopes, List.length_map]
    exact hnamed.count
  · rw [hevents, B.envelopes_ordered]
    show lower b.observedLogDigest = _
    rw [hnamed.digest, observedLogDigest, hlower]
    rfl
  · rw [hevents, B.envelopes_ordered, B.envelopes_lowered, (hchain.ordered_events hs).1, hhash]

theorem sourceAuditRange_matched (hinjective : Function.Injective evidenceDigest)
    (hlower : ∀ e, lower (evidenceDigest e) = evidenceDigest e)
    (h : InScope evidenceDigest B collectionAddress scope db) {number : ℕ} {hash : String}
    (hcheckpoint : db.checkpoint.lastScanned = some (number, hash))
    (hfrom : db.scanStartBlock ≤ fromBlock) (hto : toBlock ≤ number)
    {result : ReadSnapshot (List SourceAuditBlock)}
    (hresult : sourceAuditRange fromBlock toBlock db = .ok result)
    (hchain : SameChain B db fromBlock toBlock secondaryBlocks) :
    (compareSourceEvidence evidenceDigest summaryDigest result.data secondaryBlocks fromBlock
      toBlock scope).result = .matched := by
  obtain ⟨chain, hprojected⟩ := reachable_projected h.reachable
  have hcovered := hprojected.covered
  rw [sourceAuditRange_ok hresult]
  have hmem : ∀ b ∈ canonicalRange fromBlock toBlock db, b ∈ db.indexedBlocks.rows ∧ b ∈ chain := by
    intro b hb
    obtain ⟨hrow, hc, _⟩ := canonicalRange_mem.mp hb
    exact ⟨hrow, (hcovered.canonical b).mpr ⟨hrow, hc⟩⟩
  have hdistinct : DistinctBlocks ((canonicalRange fromBlock toBlock db).map (sourceAuditBlock db))
      secondaryBlocks := by
    constructor
    · rw [List.map_map]
      have hnodup : (canonicalRange fromBlock toBlock db).Nodup :=
        (List.perm_insertionSort _ _).nodup_iff.mpr (db.indexedBlocks.nodup_rows.filter _)
      apply hnodup.map_on
      intro a ha b hb hab
      exact hcovered.eq_of_number (hmem a ha).2 (hmem b hb).2 hab
    · exact hchain.numbers
    · intro block hblock
      obtain ⟨b, hb, rfl⟩ := List.mem_map.mp hblock
      rw [hcovered.sourceAuditBlock_events (hmem b hb).1]
      exact distinctLogs_of_logIndex (B.envelopes_distinct _)
    · exact fun s hs => (hchain.ordered_events hs).2
  rw [compareSourceEvidence_matched hinjective hlower hdistinct]
  intro n hn hn'
  -- the chain has a block at every height of the range
  have hnumber := (hcovered.checkpoint_number hcheckpoint).2
  have hheight : n ∈ chain.map BlockRow.blockNumber := by
    rw [hcovered.numbers, List.mem_range'_1]
    omega
  obtain ⟨b, hb, rfl⟩ := List.mem_map.mp hheight
  obtain ⟨hrow, hc⟩ := (hcovered.canonical b).mp hb
  obtain ⟨s, hs, hhash⟩ := hchain.canonical b hrow hc hn hn'
  refine ⟨sourceAuditBlock db b, List.mem_map_of_mem (canonicalRange_mem.mpr ⟨hrow, hc, hn, hn'⟩),
    s, hs, rfl, ?_, blocksAgree hcovered.toStored h.scoped hlower hchain hrow hs hhash⟩
  rw [(hchain.named s hs).1, hhash, (hcovered.named b hrow).number]

/-- The comparison decides the equality of evidence; it depends on no order and
on no block outside the range; and what a store reads back matches its chain. -/
theorem source_audit_decides (hinjective : Function.Injective evidenceDigest)
    (hlower : ∀ e, lower (evidenceDigest e) = evidenceDigest e)
    (summaryDigest : List AuditSummary → String) (expectedLogScopeHash : String) :
    (∀ localBlocks secondaryBlocks fromBlock toBlock,
      DistinctBlocks localBlocks secondaryBlocks →
      ((compareSourceEvidence evidenceDigest summaryDigest localBlocks secondaryBlocks fromBlock
          toBlock expectedLogScopeHash).result = .matched ↔
        SourcesAgree evidenceDigest localBlocks secondaryBlocks fromBlock toBlock
          expectedLogScopeHash)) ∧
    (∀ localBlocks localBlocks' secondaryBlocks secondaryBlocks' fromBlock toBlock,
      DistinctBlocks localBlocks secondaryBlocks →
      DistinctBlocks localBlocks' secondaryBlocks' →
      SameInRange SourceAuditBlock.blockNumber LocalRelisted fromBlock toBlock localBlocks
        localBlocks' →
      SameInRange SecondaryAuditBlock.number SecondaryRelisted fromBlock toBlock secondaryBlocks
        secondaryBlocks' →
      (compareSourceEvidence evidenceDigest summaryDigest localBlocks' secondaryBlocks' fromBlock
          toBlock expectedLogScopeHash).result =
        (compareSourceEvidence evidenceDigest summaryDigest localBlocks secondaryBlocks fromBlock
          toBlock expectedLogScopeHash).result) ∧
    (∀ (B : Blocks) collectionAddress db number hash fromBlock toBlock secondaryBlocks
        (result : ReadSnapshot (List SourceAuditBlock)),
      InScope evidenceDigest B collectionAddress expectedLogScopeHash db →
      db.checkpoint.lastScanned = some (number, hash) →
      db.scanStartBlock ≤ fromBlock → toBlock ≤ number →
      sourceAuditRange fromBlock toBlock db = .ok result →
      SameChain B db fromBlock toBlock secondaryBlocks →
      (compareSourceEvidence evidenceDigest summaryDigest result.data secondaryBlocks fromBlock
        toBlock expectedLogScopeHash).result = .matched) := by
  constructor
  · intro localBlocks secondaryBlocks fromBlock toBlock hdistinct
    exact compareSourceEvidence_matched hinjective hlower hdistinct
  · constructor
    · intro localBlocks localBlocks' secondaryBlocks secondaryBlocks' fromBlock toBlock hdistinct
        hdistinct' hlocal hsecondary
      exact (compareSourceEvidence_congr hdistinct hdistinct' hlocal hsecondary).1
    · intro B collectionAddress db number hash fromBlock toBlock secondaryBlocks result h
        hcheckpoint hfrom hto hresult hchain
      exact sourceAuditRange_matched hinjective hlower h hcheckpoint hfrom hto hresult hchain

end

/-! The audit of a mint, with its block stored and read back, and with another
block of the second provider above the range. -/

def mintLocal : SourceAuditBlock where
  blockNumber := 5
  blockHash := hex 64 1
  parentHash := hex 64 0
  scanComplete := true
  logScopeHash := hex 64 9
  observedLogCount := 1
  observedLogDigest := mintDigest (.envelopes [eventEnvelope mint.toEnvelope])
  events := [mint.toEnvelope]

def mintSecondary : SecondaryAuditBlock := ⟨5, hex 64 1, hex 64 0, [mint.toEnvelope]⟩

def aboveMint : SecondaryAuditBlock := ⟨6, hex 64 7, hex 64 1, []⟩

theorem distinctLogs_mint : DistinctLogs [mint.toEnvelope] :=
  ⟨List.nodup_singleton _, List.nodup_singleton _⟩

theorem distinctBlocks_mint : DistinctBlocks [mintLocal] [mintSecondary] := by
  constructor
  · exact List.nodup_singleton _
  · exact List.nodup_singleton _
  · intro b hb
    rw [List.mem_singleton.mp hb]
    exact distinctLogs_mint
  · intro s hs
    rw [List.mem_singleton.mp hs]
    exact distinctLogs_mint

theorem distinctBlocks_aboveMint : DistinctBlocks [mintLocal] [aboveMint, mintSecondary] := by
  constructor
  · exact List.nodup_singleton _
  · decide
  · exact distinctBlocks_mint.localLogs
  · intro s hs
    rcases List.mem_cons.mp hs with rfl | hs
    · exact ⟨List.nodup_nil, List.nodup_nil⟩
    · exact distinctBlocks_mint.secondaryLogs s hs

theorem blocksAgree_mint : BlocksAgree mintDigest (hex 64 9) mintLocal mintSecondary := by
  constructor
  · rfl
  · rfl
  · rfl
  · rfl
  · rfl
  · show lower (mintDigest (.envelopes [eventEnvelope mint.toEnvelope])) =
      mintDigest (.envelopes ((ordered [mint.toEnvelope]).map eventEnvelope))
    have hone : ordered [mint.toEnvelope] = [mint.toEnvelope] := rfl
    rw [mintDigest_lower, hone, List.map_singleton]
  · rfl

theorem sameInRange_mint : SameInRange SecondaryAuditBlock.number SecondaryRelisted 5 5
    [mintSecondary] [aboveMint, mintSecondary] := by
  constructor
  · intro s hs _ _
    exact ⟨s, List.mem_cons_of_mem _ hs, rfl, .refl _⟩
  · intro s hs _ hle
    rcases List.mem_cons.mp hs with rfl | hs
    · exact absurd hle (by decide)
    · exact ⟨s, hs, rfl, .refl _⟩

theorem sameChain_mint : SameChain mintBlocks (mintedJournal [mint]) 5 5 [mintSecondary] := by
  have hevents : mintBlocks.events (lower mintSecondary.hash) = [mint] := by
    show (if lower (hex 64 1) = hex 64 1 then [mint] else []) = [mint]
    rw [if_pos (lower_hex 64 1)]
  constructor
  · exact List.nodup_singleton _
  · intro s hs
    rw [List.mem_singleton.mp hs]
    exact ⟨rfl, lower_hex 64 0⟩
  · intro s hs
    rw [List.mem_singleton.mp hs, hevents]
    have henvelope : eventEnvelope mint.toEnvelope = mint.toEnvelope :=
      congrArg OrderedEvent.toEnvelope lowered_mint
    show [eventEnvelope mint.toEnvelope].Perm [mint.toEnvelope]
    rw [henvelope]
  · have hrows : (mintedJournal [mint]).indexedBlocks.rows.map BlockRow.blockHash = [hex 64 1] := by
      decide +kernel
    intro b hb _ _ _
    have hhash : b.blockHash ∈ [hex 64 1] := by
      rw [← hrows]
      exact List.mem_map_of_mem hb
    refine ⟨mintSecondary, List.mem_singleton_self _, ?_⟩
    rw [List.mem_singleton.mp hhash]
    exact lower_hex 64 1

theorem inScope_mint : InScope mintDigest mintBlocks plainStore.collectionAddress (hex 64 9)
    (mintedJournal [mint]) := by
  have hcommitted : InScope mintDigest mintBlocks plainStore.collectionAddress
      plainStore.logScopeHash (commit mintDigest plainStore [mintBlock] [mint] mintBlock fresh).2 :=
    .commit (.registered 5 "a" (hex 64 9)) rfl (extends_mint rfl rfl) rfl
  exact hcommitted

theorem mintedJournal_scanStartBlock (events : List OrderedEvent) :
    (mintedJournal events).scanStartBlock = 5 := by
  rw [mintedJournal, (commit_kept _ _ _ _ _).1]
  rfl

theorem source_audit_decides_mint :
    (compareSourceEvidence mintDigest (fun _ => "") [mintLocal] [aboveMint, mintSecondary] 5 5
      (hex 64 9)).result = .matched ∧
    ∃ result, sourceAuditRange 5 5 (mintedJournal [mint]) = .ok result ∧
      (compareSourceEvidence mintDigest (fun _ => "") result.data [mintSecondary] 5 5
        (hex 64 9)).result = .matched := by
  obtain ⟨hdecides, hcongr, hstore⟩ := source_audit_decides mintDigest_injective mintDigest_lower
    (fun _ => "") (hex 64 9)
  constructor
  · rw [hcongr [mintLocal] [mintLocal] [mintSecondary] [aboveMint, mintSecondary] 5 5
      distinctBlocks_mint distinctBlocks_aboveMint
      ⟨fun b hb _ _ => ⟨b, hb, rfl, .refl _⟩, fun b hb _ _ => ⟨b, hb, rfl, .refl _⟩⟩
      sameInRange_mint, hdecides [mintLocal] [mintSecondary] 5 5 distinctBlocks_mint]
    intro n hn hn'
    obtain rfl : n = 5 := by omega
    exact ⟨mintLocal, List.mem_singleton_self _, mintSecondary, List.mem_singleton_self _, rfl, rfl,
      blocksAgree_mint⟩
  · obtain ⟨_, hcheckpoint, _⟩ := mintedJournal_run
    obtain ⟨result, hresult⟩ := sourceAuditRange_exists hcheckpoint (le_refl 5) (by decide)
      (by decide)
    refine ⟨result, hresult, hstore mintBlocks plainStore.collectionAddress _ 5 (hex 64 1) 5 5 _
      result inScope_mint hcheckpoint (mintedJournal_scanStartBlock [mint]).le (le_refl 5) hresult
      sameChain_mint⟩

end MotorCove.Indexer
