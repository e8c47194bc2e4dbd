import LedgerBench.Proofs.Client.Direct
import LedgerBench.Proofs.Client.Inquiry
import LedgerBench.Proofs.Register
import LedgerBench.Proofs.Text.ByteOrder
import Mathlib.Data.List.Dedup
import Mathlib.Algebra.BigOperators.Group.List.Lemmas

/-! How operations are counted. An operation of a client that comes to an end leaves one record with
its name, whatever the connection brought. The summary counts the records name by name. -/

namespace LedgerBench

/-! ### The summary of some records -/

namespace OperationRecord

def untimed (record : OperationRecord) : String × Bool :=
  (record.operation, record.failed)

end OperationRecord

theorem isSome_best (choose : Float → Float → Float) (times : List Float) :
    (best choose times).isSome ↔ 0 < times.length := by
  cases times <;> simp [best]

namespace OperationSummary

theorem total_ofRecords (name : String) (records : List OperationRecord) :
    (ofRecords name records).total =
      (ofRecords name records).failed + (records.filter fun r => !r.failed).length := by
  simp only [ofRecords]
  rw [List.length_eq_countP_add_countP (fun r => r.failed), ← List.countP_eq_length_filter]
  simp

theorem isSome_best_millis (choose : Float → Float → Float) (name : String)
    (records : List OperationRecord) :
    (best choose ((records.filter fun r => !r.failed).map OperationRecord.millis)).isSome ↔
      (ofRecords name records).failed < (ofRecords name records).total := by
  rw [total_ofRecords, isSome_best, List.length_map]
  omega

end OperationSummary

namespace Reporter

theorem mem_foldl_keys {name : String} {records : List OperationRecord}
    {seen : Register String Unit} :
    name ∈ (records.foldl (fun seen r => seen.insert r.operation ()) seen).keys ↔
      name ∈ seen.keys ∨ ∃ r ∈ records, r.operation = name := by
  induction records generalizing seen with
  | nil => simp
  | cons r rest ih =>
    rw [List.foldl_cons, ih, Register.mem_keys_insert]
    simp only [List.mem_cons, exists_eq_or_imp]
    tauto

theorem mem_names {reporter : Reporter} {name : String} :
    name ∈ reporter.names ↔ ∃ r ∈ reporter.records, r.operation = name := by
  rw [names, mem_foldl_keys]
  simp [Register.keys, Register.empty]

theorem names_ordered (reporter : Reporter) : reporter.names.Pairwise (· < ·) := by
  rw [names, Register.keys, List.pairwise_map]
  exact (Register.ordered _).imp fun h => compare_lt_iff_lt.1 h

theorem summary_operations (reporter : Reporter) :
    reporter.summary.map (·.operation) = reporter.names := by
  simp [summary, OperationSummary.ofRecords, Function.comp_def]

theorem names_perm_dedup (reporter : Reporter) :
    reporter.names.Perm (reporter.records.map (·.operation)).dedup := by
  refine (List.perm_ext_iff_of_nodup ?_ (List.nodup_dedup _)).2 fun name => ?_
  · exact reporter.names_ordered.imp fun h => ne_of_lt h
  · rw [mem_names, List.mem_dedup, List.mem_map]

theorem sum_totals (reporter : Reporter) :
    (reporter.summary.map (·.total)).sum = reporter.records.length := by
  have htotal (name : String) :
      (reporter.records.filter (·.operation == name)).length =
        (reporter.records.map (·.operation)).count name := by
    rw [List.count, List.countP_map, List.countP_eq_length_filter]
    rfl
  simp only [summary, OperationSummary.ofRecords, List.map_map, Function.comp_def, htotal]
  rw [(reporter.names_perm_dedup.map _).sum_eq, List.sum_map_count_dedup_eq_length,
    List.length_map]

end Reporter

namespace Client

/-! ### What a call records -/

def recordedCall (operation : Operation) (result : Except Fault Answer) (reporter : Reporter) :
    Reporter :=
  match operation.name? with
  | some name => recordOf name result reporter
  | none => reporter

/-- Every operation but the end of the connection is one inquiry. -/
theorem perform_cases (σ : Type) [Transport σ] (operation : Operation) :
    operation = .disconnect ∨
      ∃ (α : Type) (inquiry : Inquiry α) (f : α → Answer), operation.name? = some inquiry.name ∧
        (perform operation : ClientM σ Answer) = do return f (← inquiry.run) := by
  cases operation with
  | disconnect => exact .inl rfl
  | walletPropose passphrase =>
    exact .inr ⟨_, .walletPropose passphrase, .keys, rfl, by rw [perform, walletPropose_eq]⟩
  | submit tx secret =>
    exact .inr ⟨_, .submit tx secret, .submitted, rfl, by rw [perform, submit_eq]⟩
  | ledgerAccept =>
    exact .inr ⟨_, .ledgerAccept, fun _ => .done, rfl, by rw [perform, ledgerAccept_eq]⟩
  | accountFlags account ledger =>
    exact .inr ⟨_, .accountFlags account ledger, .flags, rfl, by rw [perform, accountFlags_eq]⟩
  | accountLines account peer ledger =>
    exact .inr ⟨_, .accountLines account peer ledger, .lines, rfl, by
      rw [perform, accountLines_eq]⟩
  | lineEntry account issuer currency ledger =>
    exact .inr ⟨_, .lineEntry account issuer currency ledger, .entry, rfl, by
      rw [perform, lineEntry_eq]⟩
  | findPaths source destination amount currencies =>
    exact .inr ⟨_, .findPaths source destination amount currencies, .paths, rfl, by
      rw [perform, findPaths_eq]⟩

/-- An operation records itself once it has ended, and the end of a connection records nothing. -/
theorem perform_reporter {σ : Type} [Transport σ] (operation : Operation) (session : Session σ) :
    (perform operation session).2.reporter =
      recordedCall operation (perform operation session).1 session.reporter := by
  rcases perform_cases σ operation with rfl | ⟨α, inquiry, f, hname, hperform⟩
  · simp only [perform, Client.disconnect, bind, ExceptT.bind, ExceptT.mk, StateT.bind]
    rcases (Transport.close session.link).1 with e | ⟨⟩ <;> rfl
  · rw [hperform, recordedCall, hname]
    simp only [bind, ExceptT.bind, ExceptT.mk, StateT.bind, Inquiry.run]
    rcases inquiry.outcome (Transport.request inquiry.command inquiry.params session.link).1 with
      (e | _) | a <;> rfl

/-- Calls with one reporter, in the order in which they end. Each is made over a connection of its
own kind and in any state, so the requests of several clients may be mixed in any way. -/
inductive Calls : Reporter → List (Operation × Except Fault Answer) → Reporter → Prop
  | none {reporter : Reporter} : Calls reporter [] reporter
  | next {σ : Type} [Transport σ] {link link' : σ} {reporter reporter' last : Reporter}
      {operation : Operation} {result : Except Fault Answer}
      {calls : List (Operation × Except Fault Answer)}
      (called : perform operation ⟨link, reporter⟩ = (result, ⟨link', reporter'⟩))
      (later : Calls reporter' calls last) : Calls reporter ((operation, result) :: calls) last

def performAll {σ : Type} [Transport σ] :
    List Operation → Session σ → List (Operation × Except Fault Answer) × Session σ
  | [], session => ([], session)
  | operation :: rest, session =>
    let (result, session) := perform operation session
    let (calls, session) := performAll rest session
    ((operation, result) :: calls, session)

theorem calls_performAll {σ : Type} [Transport σ] (operations : List Operation)
    (session : Session σ) :
    Calls session.reporter (performAll operations session).1
      (performAll operations session).2.reporter := by
  induction operations generalizing session with
  | nil => exact .none
  | cons operation rest ih => exact .next rfl (ih _)

def tallied (call : Operation × Except Fault Answer) : Option (String × Bool) :=
  call.1.name?.map fun name => (name, !call.2.isOk)

theorem recordedCall_enabled (operation : Operation) (result : Except Fault Answer)
    (reporter : Reporter) : (recordedCall operation result reporter).enabled = reporter.enabled := by
  unfold recordedCall
  cases operation.name? with
  | none => rfl
  | some name =>
    rcases result with (e | _) | answer <;> simp only [recordOf, Reporter.add] <;> split <;> rfl

theorem recordedCall_disabled (operation : Operation) (result : Except Fault Answer)
    {reporter : Reporter} (hdisabled : reporter.enabled = false) :
    recordedCall operation result reporter = reporter := by
  unfold recordedCall
  cases operation.name? with
  | none => rfl
  | some name => rcases result with (e | _) | answer <;> simp [recordOf, Reporter.add, hdisabled]

theorem recordedCall_untimed {operation : Operation} {result : Except Fault Answer}
    (hresult : result ≠ .error .broken) {reporter : Reporter} (henabled : reporter.enabled = true) :
    (recordedCall operation result reporter).records.map OperationRecord.untimed =
      reporter.records.map OperationRecord.untimed ++ (tallied (operation, result)).toList := by
  unfold recordedCall tallied
  cases operation.name? with
  | none => simp
  | some name =>
    rcases result with (e | _) | answer
    · simp [recordOf, Reporter.add, henabled, OperationRecord.untimed, Except.isOk, Except.toBool]
    · exact absurd rfl hresult
    · simp [recordOf, Reporter.add, henabled, OperationRecord.untimed, Except.isOk, Except.toBool]

theorem recordedCall_of_called {σ : Type} [Transport σ] {link link' : σ}
    {reporter reporter' : Reporter} {operation : Operation} {result : Except Fault Answer}
    (called : perform operation ⟨link, reporter⟩ = (result, ⟨link', reporter'⟩)) :
    reporter' = recordedCall operation result reporter := by
  have hreporter := perform_reporter operation (⟨link, reporter⟩ : Session σ)
  rwa [called] at hreporter

variable {reporter last : Reporter} {calls : List (Operation × Except Fault Answer)}

theorem Calls.untimed_eq (h : Calls reporter calls last) (henabled : reporter.enabled = true)
    (hcalls : ∀ call ∈ calls, call.2 ≠ .error .broken) :
    last.records.map OperationRecord.untimed =
      reporter.records.map OperationRecord.untimed ++ calls.filterMap tallied := by
  induction h with
  | none => simp
  | @next _ _ _ _ reporter reporter' last operation result calls called later ih =>
    obtain ⟨hcall, hlater⟩ := List.forall_mem_cons.1 hcalls
    obtain rfl := recordedCall_of_called called
    rw [ih ((recordedCall_enabled operation result reporter).trans henabled) hlater,
      recordedCall_untimed hcall henabled, List.append_assoc, List.filterMap_cons]
    cases tallied (operation, result) <;> rfl

theorem Calls.disabled_eq (h : Calls reporter calls last) (hdisabled : reporter.enabled = false) :
    last = reporter := by
  induction h with
  | none => rfl
  | next called _ ih =>
    obtain rfl := recordedCall_of_called called
    rw [recordedCall_disabled _ _ hdisabled] at ih
    exact ih hdisabled

/-! ### What a summary counts -/

variable {timed : List OperationRecord}

theorem countP_tallied (h : timed.map OperationRecord.untimed = calls.filterMap tallied)
    (p : String → Bool → Bool) :
    timed.countP (fun r => p r.operation r.failed) =
      calls.countP fun call => call.1.name?.any fun name => p name (!call.2.isOk) := by
  have hcount := congrArg (List.countP fun entry : String × Bool => p entry.1 entry.2) h
  rw [List.countP_map, List.countP_filterMap] at hcount
  refine hcount.trans (List.countP_congr fun call _ => ?_)
  unfold tallied
  cases call.1.name? <;> simp

theorem any_name_eq (operation : Operation) (name : String) :
    (operation.name?.any fun used => used == name) = (operation.name? == some name) := by
  cases operation.name? <;> rfl

theorem countP_name (h : timed.map OperationRecord.untimed = calls.filterMap tallied)
    (name : String) :
    timed.countP (fun r => r.operation == name) =
      calls.countP fun call => call.1.name? == some name := by
  rw [countP_tallied h fun used _ => used == name]
  simp only [any_name_eq]

theorem countP_failed (h : timed.map OperationRecord.untimed = calls.filterMap tallied)
    (name : String) :
    timed.countP (fun r => r.failed && r.operation == name) =
      calls.countP fun call => !call.2.isOk && call.1.name? == some name := by
  rw [countP_tallied h fun used failed => failed && used == name]
  refine List.countP_congr fun call _ => ?_
  rw [← any_name_eq]
  cases call.1.name? <;> simp

theorem length_timed (h : timed.map OperationRecord.untimed = calls.filterMap tallied) :
    timed.length = calls.countP fun call => call.1.name?.isSome := by
  rw [← List.countP_true, countP_tallied h fun _ _ => true]
  refine List.countP_congr fun call _ => ?_
  cases call.1.name? <;> simp

theorem name?_eq_none_iff {operation : Operation} :
    operation.name? = none ↔ operation = .disconnect := by
  cases operation <;> simp [Operation.name?]

/-- Calls that all come to an end are counted exactly: under each name as often as an operation of
this name was called, and as failed as often as such a call ended with an error of any kind. It does
not matter which connections they are made over, what those bring, and how long a call takes. -/
theorem operations_are_counted :
    (∀ {σ : Type} [Transport σ] (operations : List Operation) (session : Session σ),
      Calls session.reporter (performAll operations session).1
        (performAll operations session).2.reporter) ∧
    (∀ operation : Operation, operation.name? = none ↔ operation = .disconnect) ∧
    (∀ calls reporter, Calls (.start true) calls reporter →
      (∀ call ∈ calls, call.2 ≠ .error .broken) →
      ∀ timed : List OperationRecord,
        timed.map OperationRecord.untimed = reporter.records.map OperationRecord.untimed →
        let summary := Reporter.summary ⟨true, timed⟩
        (summary.Pairwise fun a b =>
          Text.utf8 a.operation.toList < Text.utf8 b.operation.toList) ∧
        (∀ name, (∃ entry ∈ summary, entry.operation = name) ↔
          ∃ call ∈ calls, call.1.name? = some name) ∧
        (∀ entry ∈ summary,
          (entry.total = calls.countP fun call => call.1.name? == some entry.operation) ∧
          (entry.failed = calls.countP fun call =>
            !call.2.isOk && call.1.name? == some entry.operation) ∧
          (entry.minMillis.isSome ↔ entry.failed < entry.total) ∧
          (entry.maxMillis.isSome ↔ entry.failed < entry.total)) ∧
        (summary.map (·.total)).sum = calls.countP fun call => call.1.name?.isSome) ∧
    ∀ calls reporter, Calls (.start false) calls reporter → reporter.summary = [] := by
  refine ⟨calls_performAll, fun _ => name?_eq_none_iff, ?_, ?_⟩
  · intro calls reporter h hcalls timed htimed summary
    replace htimed : timed.map OperationRecord.untimed = calls.filterMap tallied :=
      htimed.trans (h.untimed_eq rfl hcalls)
    have hnames : summary.map (·.operation) = Reporter.names ⟨true, timed⟩ :=
      Reporter.summary_operations _
    refine ⟨?_, fun name => ?_, fun entry hentry => ?_, ?_⟩
    · have hordered := Reporter.names_ordered ⟨true, timed⟩
      rw [← hnames, List.pairwise_map] at hordered
      exact hordered.imp Text.utf8_lt_of_lt
    · have hpos := iff_of_eq (congrArg (0 < ·) (countP_name htimed name))
      simp only [List.countP_pos_iff, beq_iff_eq] at hpos
      rw [← List.mem_map, hnames, Reporter.mem_names]
      exact hpos
    · obtain ⟨name, -, rfl⟩ := List.mem_map.1 hentry
      refine ⟨?_, ?_, OperationSummary.isSome_best_millis _ name _,
        OperationSummary.isSome_best_millis _ name _⟩
      · rw [← countP_name htimed, List.countP_eq_length_filter]
        rfl
      · rw [← countP_failed htimed, ← List.countP_filter]
        rfl
    · rw [Reporter.sum_totals, length_timed htimed]
  · intro calls reporter h
    rw [h.disabled_eq rfl]
    rfl

/-- Replies of all kinds: a result, an error of the server, a lost connection and a result without
what is asked for. -/
def mixedReplies : Session ScriptedTransport :=
  let success (result : Json) : Except RemoteError Json :=
    .ok (.object [("result", result), ("status", .string "success")])
  let replies := [success (.object [("engine_result", .string "tesSUCCESS")]),
    .ok (.object [("error", .string "noNetwork"), ("status", .string "error")]), .error .closed,
    success (.object [("lines", .string "none")])]
  ⟨⟨replies, []⟩, .start true⟩

def mixedOperations : List Operation :=
  let tx := Transaction.payment genesisAddress "rPayee" (.native 1000) false
  [.submit tx genesisPassphrase, .submit tx genesisPassphrase, .disconnect, .ledgerAccept,
    .accountLines genesisAddress none .current]

def isUnbroken : Except Fault Answer → Bool
  | .error .broken => false
  | _ => true

theorem mixed_operations_counted :
    let calls := (performAll mixedOperations mixedReplies).1
    let reporter := (performAll mixedOperations mixedReplies).2.reporter
    Calls (.start true) calls reporter ∧ (∀ call ∈ calls, call.2 ≠ .error .broken) ∧
      (reporter.summary.map (·.total)).sum = 4 ∧
      ∃ entry ∈ reporter.summary, entry.operation = "submit" ∧ entry.total = 2 ∧
        entry.failed = 1 ∧ entry.minMillis.isSome := by
  intro calls reporter
  obtain ⟨hcalls, -, hcounted, -⟩ := operations_are_counted
  have hran : Calls (.start true) calls reporter := hcalls mixedOperations mixedReplies
  have hends : ∀ call ∈ calls, isUnbroken call.2 = true := by decide +kernel
  have hunbroken : ∀ call ∈ calls, call.2 ≠ .error .broken := by
    intro call hcall hbroken
    have hend := hends call hcall
    rw [hbroken] at hend
    cases hend
  obtain ⟨-, hnames, hentries, hsum⟩ := hcounted calls reporter hran hunbroken reporter.records rfl
  refine ⟨hran, hunbroken, hsum.trans (by decide +kernel), ?_⟩
  have hused : (calls.any fun call => call.1.name? == some "submit") = true := by decide +kernel
  simp only [List.any_eq_true, beq_iff_eq] at hused
  obtain ⟨entry, hentry, hname⟩ := (hnames "submit").2 hused
  obtain ⟨htotal, hfailed, hmin, -⟩ := hentries entry hentry
  rw [hname] at htotal hfailed
  have hcounts : (calls.countP fun call => call.1.name? == some "submit") = 2 ∧
      (calls.countP fun call => !call.2.isOk && call.1.name? == some "submit") = 1 := by
    decide +kernel
  rw [hcounts.1] at htotal
  rw [hcounts.2] at hfailed
  refine ⟨entry, hentry, hname, htotal, hfailed, hmin.2 ?_⟩
  rw [htotal, hfailed]
  decide

end Client
end LedgerBench
