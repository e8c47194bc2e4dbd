import LedgerBench.Fixture.Server
import LedgerBench.Proofs.Fixture.Leads

/-! What the helpers of a step hear over their connection, and what comes of it. A connection whose
replies are written down does what the connection itself does. -/

namespace LedgerBench

/-- A connection with the replies that came over it. -/
structure Watched (σ : Type) where
  link : σ
  replies : List (Except RemoteError Json)

instance {σ : Type} [Transport σ] : Transport (Watched σ) where
  request command params watched :=
    let (reply, link) := Transport.request command params watched.link
    (reply, ⟨link, watched.replies ++ [reply]⟩)
  close watched :=
    let (result, link) := Transport.close watched.link
    (result, { watched with link })

namespace Fixture

open StepM (bind_ok bind_error)

variable {σ ε α β γ : Type}

def unwatched (scene : Scene (Bench ε) (Fixture (Watched σ))) : Scene (Bench ε) (Fixture σ) :=
  ⟨scene.stage, scene.scenario, scene.listener,
    ⟨scene.value.remote.map Watched.link, scene.value.book, scene.value.server⟩⟩

def watched (scene : Scene (Bench ε) (Fixture σ)) : Scene (Bench ε) (Fixture (Watched σ)) :=
  ⟨scene.stage, scene.scenario, scene.listener,
    ⟨scene.value.remote.map fun link => ⟨link, []⟩, scene.value.book, scene.value.server⟩⟩

def heard (scene : Scene (Bench ε) (Fixture (Watched σ))) : List (Except RemoteError Json) :=
  (scene.value.remote.map Watched.replies).getD []

theorem unwatched_watched (scene : Scene (Bench ε) (Fixture σ)) :
    unwatched (watched scene) = scene := by
  obtain ⟨stage, name, listener, ⟨_ | link, book, server⟩⟩ := scene <;> rfl

theorem heard_watched (scene : Scene (Bench ε) (Fixture σ)) : heard (watched scene) = [] := by
  obtain ⟨stage, name, listener, ⟨_ | link, book, server⟩⟩ := scene <;> rfl

/-- How work may end that heard these replies: a closed connection is the last that it hears, and
its failure says so under some contexts. No other failure ends the suite. -/
inductive Closing : List (Except RemoteError Json) → Except Failure α → Prop
  | lost {before : List (Except RemoteError Json)} (contexts : List String)
      (hopen : .error .closed ∉ before) :
      Closing (before ++ [.error .closed]) (.error ⟨contexts, .connectionLost⟩)
  | failed {replies : List (Except RemoteError Json)} {failure : Failure}
      (hopen : .error .closed ∉ replies) (hgoesOn : failure.abortReason? = none) :
      Closing replies (.error failure)
  | done {replies : List (Except RemoteError Json)} (a : α) (hopen : .error .closed ∉ replies) :
      Closing replies (.ok a)

theorem Closing.lost_of_mem {replies : List (Except RemoteError Json)} {result : Except Failure α}
    (h : Closing replies result) (hclosed : .error .closed ∈ replies) :
    ∃ before contexts, replies = before ++ [.error .closed] ∧ .error .closed ∉ before ∧
      result = .error ⟨contexts, .connectionLost⟩ := by
  cases h with
  | @lost before contexts hopen => exact ⟨before, contexts, rfl, hopen, rfl⟩
  | failed hopen hgoesOn => exact absurd hclosed hopen
  | done a hopen => exact absurd hclosed hopen

theorem Closing.goesOn {replies : List (Except RemoteError Json)} {failure : Failure}
    (h : Closing replies (.error failure : Except Failure α)) (hopen : .error .closed ∉ replies) :
    failure.abortReason? = none := by
  cases h with
  | lost contexts hbefore => simp at hopen
  | failed _ hgoesOn => exact hgoesOn

/-- From this scene the work does the same whether or not the replies are written down, and it ends
as they say. -/
def HeedsAt (scene : Scene (Bench ε) (Fixture (Watched σ))) (work' : FixtureM (Watched σ) ε α)
    (work : FixtureM σ ε α) : Prop :=
  ∃ replies, work (unwatched scene) = ((work' scene).1, unwatched (work' scene).2) ∧
    heard (work' scene).2 = heard scene ++ replies ∧ Closing replies (work' scene).1

def Heeds (work' : FixtureM (Watched σ) ε α) (work : FixtureM σ ε α) : Prop :=
  ∀ scene, HeedsAt scene work' work

/-! ### Work that hears nothing -/

theorem Closing.silent {result : Except Failure α}
    (h : ∀ failure, result = .error failure → failure.abortReason? = none) :
    Closing [] result := by
  cases result with
  | ok a => exact .done a List.not_mem_nil
  | error failure => exact .failed List.not_mem_nil (h failure rfl)

theorem Heeds.pure (a : α) : Heeds (Pure.pure a : FixtureM (Watched σ) ε α) (Pure.pure a) :=
  fun _ => ⟨[], rfl, (List.append_nil _).symm, .done a List.not_mem_nil⟩

theorem Heeds.ofExcept {result : Except Failure α}
    (h : ∀ failure, result = .error failure → failure.abortReason? = none) :
    Heeds (MonadExcept.ofExcept result : FixtureM (Watched σ) ε α) (MonadExcept.ofExcept result) := by
  intro scene
  cases result with
  | ok a => exact ⟨[], rfl, (List.append_nil _).symm, .silent h⟩
  | error failure => exact ⟨[], rfl, (List.append_nil _).symm, .silent h⟩

theorem Heeds.throw {failure : Failure} (h : failure.abortReason? = none) :
    Heeds (throw failure : FixtureM (Watched σ) ε α) (throw failure) :=
  fun _ => ⟨[], rfl, (List.append_nil _).symm, .failed List.not_mem_nil h⟩

theorem Heeds.modifyBook (change : AccountBook → AccountBook) :
    Heeds (modifyBook change : FixtureM (Watched σ) ε Unit) (modifyBook change) :=
  fun _ => ⟨[], rfl, (List.append_nil _).symm, .done () List.not_mem_nil⟩

/-! ### Work in order -/

theorem Closing.append {replies later : List (Except RemoteError Json)} {a : α}
    {result : Except Failure β} (h : Closing replies (.ok a : Except Failure α))
    (hlater : Closing later result) : Closing (replies ++ later) result := by
  obtain ⟨hopen⟩ | ⟨hopen⟩ | ⟨-, hopen⟩ := h
  cases hlater with
  | lost contexts hbefore =>
    rw [← List.append_assoc]
    exact .lost contexts (by simp [hopen, hbefore])
  | failed hafter hgoesOn => exact .failed (by simp [hopen, hafter]) hgoesOn
  | done b hafter => exact .done b (by simp [hopen, hafter])

theorem Closing.error {replies : List (Except RemoteError Json)} {failure : Failure}
    (h : Closing replies (.error failure : Except Failure α)) :
    Closing replies (.error failure : Except Failure β) := by
  cases h with
  | lost contexts hopen => exact .lost contexts hopen
  | failed hopen hgoesOn => exact .failed hopen hgoesOn

theorem HeedsAt.bind {scene : Scene (Bench ε) (Fixture (Watched σ))}
    {work' : FixtureM (Watched σ) ε α} {work : FixtureM σ ε α}
    {next' : α → FixtureM (Watched σ) ε β} {next : α → FixtureM σ ε β}
    (h : HeedsAt scene work' work) (hnext : ∀ a, Heeds (next' a) (next a)) :
    HeedsAt scene (work' >>= next') (work >>= next) := by
  obtain ⟨replies, hsame, hheard, hcloses⟩ := h
  unfold HeedsAt
  rcases hran : work' scene with ⟨failure | a, middle⟩
  · rw [hran] at hsame hheard hcloses
    rw [bind_error hran, bind_error hsame]
    exact ⟨replies, rfl, hheard, hcloses.error⟩
  · obtain ⟨later, hsame', hheard', hcloses'⟩ := hnext a middle
    rw [hran] at hsame hheard hcloses
    rw [bind_ok hran, bind_ok hsame]
    refine ⟨replies ++ later, hsame', ?_, hcloses.append hcloses'⟩
    rw [← List.append_assoc, ← hheard]
    exact hheard'

theorem Heeds.bind {work' : FixtureM (Watched σ) ε α} {work : FixtureM σ ε α}
    {next' : α → FixtureM (Watched σ) ε β} {next : α → FixtureM σ ε β} (h : Heeds work' work)
    (hnext : ∀ a, Heeds (next' a) (next a)) : Heeds (work' >>= next') (work >>= next) :=
  fun scene => (h scene).bind hnext

theorem Heeds.get {next' : Scene (Bench ε) (Fixture (Watched σ)) → FixtureM (Watched σ) ε β}
    {next : Scene (Bench ε) (Fixture σ) → FixtureM σ ε β}
    (h : ∀ scene, HeedsAt scene (next' scene) (next (unwatched scene))) :
    Heeds (MonadState.get >>= next') (MonadState.get >>= next) :=
  fun scene => h scene

theorem Closing.inContext {replies : List (Except RemoteError Json)} {result : Except Failure α}
    (h : Closing replies result) (context : String) :
    Closing replies (result.mapError (·.inContext context)) := by
  cases h with
  | lost contexts hopen => exact .lost (context :: contexts) hopen
  | failed hopen hgoesOn => exact .failed hopen hgoesOn
  | done a hopen => exact .done a hopen

def forget (work : FixtureM σ ε α) : FixtureM σ ε Unit := do
  let _ ← work
  return ()

theorem forget_run (work : FixtureM σ ε α) (scene : Scene (Bench ε) (Fixture σ)) :
    forget work scene = ((work scene).1.map fun _ => (), (work scene).2) := by
  rcases hran : work scene with ⟨failure | a, last⟩
  · exact bind_error hran _
  · exact bind_ok hran _

theorem Heeds.forget {work' : FixtureM (Watched σ) ε α} {work : FixtureM σ ε α}
    (h : Heeds work' work) : Heeds (forget work') (forget work) :=
  h.bind fun _ => .pure ()

theorem Heeds.inContext {work' : FixtureM (Watched σ) ε α} {work : FixtureM σ ε α}
    (h : Heeds work' work) (context : String) :
    Heeds (work'.inContext context) (work.inContext context) := by
  intro scene
  obtain ⟨replies, hsame, hheard, hcloses⟩ := h scene
  refine ⟨replies, ?_, hheard, hcloses.inContext context⟩
  simp only [StepM.inContext, hsame]
  rfl

theorem Heeds.forM {work' : γ → FixtureM (Watched σ) ε PUnit} {work : γ → FixtureM σ ε PUnit}
    (h : ∀ item, Heeds (work' item) (work item)) (items : List γ) :
    Heeds (items.forM work') (items.forM work) := by
  induction items with
  | nil => exact .pure _
  | cons item rest ih => exact (h item).bind fun _ => ih

/-! ### Names -/

theorem goesOn_address {book : AccountBook} {name : String} {failure : Failure}
    (h : book.address name = .error failure) : failure.abortReason? = none := by
  unfold AccountBook.address at h
  split at h
  · cases h
  · split at h <;> cases h
    rfl

theorem goesOn_secretFor {book : AccountBook} {address : String} {failure : Failure}
    (h : book.secretFor address = .error failure) : failure.abortReason? = none := by
  unfold AccountBook.secretFor at h
  split at h
  · cases h
  · cases h
    rfl

theorem goesOn_amount {book : AccountBook} {text : String} {failure : Failure}
    (h : book.amount text = .error failure) : failure.abortReason? = none := by
  unfold AccountBook.amount at h
  split at h
  · cases h
    rfl
  next parsed _ =>
    split at h
    · cases h
    next issuer _ =>
      cases haddress : book.address issuer with
      | ok address =>
        rw [haddress] at h
        cases h
      | error failure' =>
        rw [haddress] at h
        cases h
        exact goesOn_address haddress

theorem Heeds.connected : Heeds (connected : FixtureM (Watched σ) ε Unit) connected := by
  refine .get fun scene => ?_
  obtain ⟨stage, name, listener, ⟨_ | link, book, server⟩⟩ := scene
  · exact ⟨[], rfl, rfl, .failed List.not_mem_nil rfl⟩
  · exact ⟨[], rfl, (List.append_nil _).symm, .done () List.not_mem_nil⟩

theorem Heeds.address (name : String) :
    Heeds (address name : FixtureM (Watched σ) ε String) (address name) :=
  .get fun scene => Heeds.ofExcept (fun _ => goesOn_address) scene

theorem Heeds.amount (text : String) :
    Heeds (amount text : FixtureM (Watched σ) ε Amount) (amount text) :=
  .get fun scene => Heeds.ofExcept (fun _ => goesOn_amount) scene

theorem Heeds.address? (name : Option String) :
    Heeds (address? name : FixtureM (Watched σ) ε (Option String)) (address? name) := by
  cases name with
  | none => exact .pure none
  | some name => exact (Heeds.address name).bind fun _ => .pure _

/-! ### Requests -/

/-- What is made of the end of an operation: of a closed connection that it was lost, and of no
other end a failure that ends the suite. -/
structure Settles (settle : Except Fault α → Except Failure β) : Prop where
  lost : ∃ contexts, settle (.error (.remote .closed)) = .error ⟨contexts, .connectionLost⟩
  goesOn : ∀ outcome failure, outcome ≠ .error (.remote .closed) →
    settle outcome = .error failure → failure.abortReason? = none

theorem Settles.closing {settle : Except Fault α → Except Failure β} (h : Settles settle)
    (inquiry : Client.Inquiry α) (reply : Except RemoteError Json) :
    Closing [reply] (settle (inquiry.outcome reply)) := by
  have hclosed := inquiry.outcome_closed_iff reply
  by_cases hreply : reply = .error .closed
  · obtain ⟨contexts, hlost⟩ := h.lost
    rw [hclosed.mpr hreply, hlost, hreply]
    exact (.lost contexts List.not_mem_nil : Closing ([] ++ [_]) _)
  · have hopen : .error .closed ∉ [reply] := by simpa using Ne.symm hreply
    cases hresult : settle (inquiry.outcome reply) with
    | ok b => exact .done b hopen
    | error failure => exact .failed hopen (h.goesOn _ failure (mt hclosed.mp hreply) hresult)

theorem abortReason?_toFailure {fault : Fault} (h : fault ≠ .remote .closed) :
    fault.toFailure.abortReason? = none := by
  rcases fault with e | _
  · cases e with
    | closed => exact absurd rfl h
    | remote | transport | timeout | decode => rfl
  · rfl

theorem settles_toFailure :
    Settles (fun outcome : Except Fault α => outcome.mapError Fault.toFailure) := by
  refine ⟨⟨[], rfl⟩, ?_⟩
  rintro (fault | a) failure hopen ⟨⟩
  exact abortReason?_toFailure fun h => hopen (congrArg _ h)

variable [Transport σ]

theorem ask_run (inquiry : Client.Inquiry α) {link link' : σ} {reply : Except RemoteError Json}
    (hreply : Transport.request inquiry.command inquiry.params link = (reply, link'))
    (scene : Scene (Bench ε) (Fixture σ)) (hremote : scene.value.remote = some link) :
    Fixture.ask inquiry.run scene = (.ok (inquiry.outcome reply),
      { scene with
        stage := { scene.stage with
          reporter := Client.recordOf inquiry.name (inquiry.outcome reply) scene.stage.reporter }
        value := { scene.value with remote := some link' } }) := by
  simp only [Fixture.ask, hremote, Client.Inquiry.run, hreply]

theorem ask_watched (inquiry : Client.Inquiry α) (scene : Scene (Bench ε) (Fixture (Watched σ)))
    {link : Watched σ} (hremote : scene.value.remote = some link) :
    ∃ reply scene', Fixture.ask inquiry.run scene = (.ok (inquiry.outcome reply), scene') ∧
      Fixture.ask inquiry.run (unwatched scene) = (.ok (inquiry.outcome reply), unwatched scene') ∧
      heard scene' = heard scene ++ [reply] := by
  rcases hreply : Transport.request inquiry.command inquiry.params link.link with ⟨reply, link'⟩
  have hwatched : Transport.request inquiry.command inquiry.params link =
      (reply, (⟨link', link.replies ++ [reply]⟩ : Watched σ)) := by
    simp only [Transport.request, hreply]
  have hunwatched : (unwatched scene).value.remote = some link.link := by
    simp only [unwatched, hremote, Option.map_some]
  refine ⟨reply, _, ask_run inquiry hwatched scene hremote, ?_, ?_⟩
  · exact ask_run inquiry hreply (unwatched scene) hunwatched
  · simp only [heard, hremote, Option.map_some, Option.getD_some]

theorem Heeds.ask (inquiry : Client.Inquiry α) {settle : Except Fault α → Except Failure β}
    (h : Settles settle) {next' : Except Fault α → FixtureM (Watched σ) ε β}
    {next : Except Fault α → FixtureM σ ε β}
    (hnext' : ∀ outcome scene, next' outcome scene = (settle outcome, scene))
    (hnext : ∀ outcome scene, next outcome scene = (settle outcome, scene)) :
    Heeds (Fixture.ask inquiry.run >>= next') (Fixture.ask inquiry.run >>= next) := by
  intro scene
  unfold HeedsAt
  cases hremote : scene.value.remote with
  | none =>
    have hwatched : Fixture.ask inquiry.run scene = (.error notConnected, scene) := by
      simp only [Fixture.ask, hremote]
    have hunwatched : Fixture.ask inquiry.run (unwatched scene) =
        (.error notConnected, unwatched scene) := by
      simp only [Fixture.ask, unwatched, hremote, Option.map_none]
    rw [bind_error hwatched, bind_error hunwatched]
    exact ⟨[], rfl, (List.append_nil _).symm, .failed List.not_mem_nil rfl⟩
  | some link =>
    obtain ⟨reply, scene', hwatched, hunwatched, hheard⟩ := ask_watched inquiry scene hremote
    rw [bind_ok hwatched, bind_ok hunwatched, hnext', hnext]
    exact ⟨[reply], rfl, hheard, h.closing inquiry reply⟩

theorem Heeds.call (inquiry : Client.Inquiry α) :
    Heeds (Fixture.call inquiry.run : FixtureM (Watched σ) ε α) (Fixture.call inquiry.run) := by
  refine .ask inquiry settles_toFailure ?_ ?_ <;>
  · rintro (fault | a) scene <;> rfl

/-! ### Helpers -/

theorem Heeds.submit (tx : Transaction) :
    Heeds (submit tx : FixtureM (Watched σ) ε EngineResult) (submit tx) := by
  refine Heeds.connected.bind fun _ => .get fun scene => ?_
  refine HeedsAt.bind (Heeds.ofExcept (fun _ => goesOn_secretFor) scene) fun secret => ?_
  rw [Client.submit_eq, Client.submit_eq]
  exact (Heeds.call _).bind fun _ => .pure _

theorem Heeds.ledgerAccept : Heeds (ledgerAccept : FixtureM (Watched σ) ε Unit) ledgerAccept := by
  rw [Fixture.ledgerAccept, Fixture.ledgerAccept, Client.ledgerAccept_eq, Client.ledgerAccept_eq]
  exact .call _

theorem Heeds.submitAndAccept (tx : Transaction) :
    Heeds (submitAndAccept tx : FixtureM (Watched σ) ε EngineResult) (submitAndAccept tx) :=
  (Heeds.submit tx).bind fun _ => Heeds.ledgerAccept.bind fun _ => .pure _

theorem Heeds.submitTransaction (tx : Transaction) :
    Heeds (submitTransaction tx : FixtureM (Watched σ) ε Unit) (submitTransaction tx) := by
  refine (Heeds.submit tx).bind fun result => ?_
  split
  · exact .ledgerAccept
  · exact .throw rfl

theorem Heeds.createAccount (funder : String) (amount : Amount) (defaultDivvy : Bool)
    (name : String) :
    Heeds (createAccount funder amount defaultDivvy name : FixtureM (Watched σ) ε Unit)
      (createAccount funder amount defaultDivvy name) := by
  unfold Fixture.createAccount
  rw [Client.walletPropose_eq, Client.walletPropose_eq]
  refine Heeds.connected.bind fun _ => ((Heeds.call _).inContext _).bind fun keys => ?_
  refine (Heeds.modifyBook _).bind fun _ => ?_
  refine ((Heeds.submitTransaction _).inContext _).bind fun _ => ?_
  split
  · exact (Heeds.submitTransaction _).inContext _
  · exact .pure _

theorem Heeds.createAccounts (funder amount : String) (names : List String) (defaultDivvy : Bool) :
    Heeds (createAccounts funder amount names defaultDivvy : FixtureM (Watched σ) ε Unit)
      (createAccounts funder amount names defaultDivvy) :=
  (Heeds.address funder).bind fun _ => (Heeds.amount amount).bind fun _ =>
    .forM (fun name => .createAccount _ _ defaultDivvy name) names

theorem Heeds.creditLimit (account limit : String) :
    Heeds (creditLimit account limit : FixtureM (Watched σ) ε Unit) (creditLimit account limit) :=
  (Heeds.address account).bind fun _ => (Heeds.amount limit).bind fun _ =>
    (Heeds.submitTransaction _).inContext _

theorem Heeds.creditLimits (limits : List (String × String)) :
    Heeds (creditLimits limits : FixtureM (Watched σ) ε Unit) (creditLimits limits) :=
  .forM (fun (account, limit) => .creditLimit account limit) limits

theorem Heeds.accountFlags (account : String) (ledger : LedgerSelector) :
    Heeds (accountFlags account ledger : FixtureM (Watched σ) ε RootFlags)
      (accountFlags account ledger) := by
  refine Heeds.connected.bind fun _ => (Heeds.address account).bind fun address => ?_
  rw [Client.accountFlags_eq, Client.accountFlags_eq]
  exact .call _

theorem Heeds.accountLines (account : String) (peer : Option String) (ledger : LedgerSelector) :
    Heeds (accountLines account peer ledger : FixtureM (Watched σ) ε (List TrustLine))
      (accountLines account peer ledger) := by
  refine Heeds.connected.bind fun _ => (Heeds.address account).bind fun address => ?_
  refine (Heeds.address? peer).bind fun peer => ?_
  rw [Client.accountLines_eq, Client.accountLines_eq]
  exact .call _

def settleEntry : Except Fault LineEntry → Except Failure (Except RemoteError LineEntry)
  | .ok entry => .ok (.ok entry)
  | .error (.remote (.remote error message)) => .ok (.error (.remote error message))
  | .error fault => .error fault.toFailure

theorem settles_entry : Settles settleEntry := by
  refine ⟨⟨[], rfl⟩, ?_⟩
  rintro outcome failure hopen hfailure
  unfold settleEntry at hfailure
  split at hfailure
  · cases hfailure
  · cases hfailure
  · cases hfailure
    exact abortReason?_toFailure fun h => hopen (congrArg _ h)

theorem Heeds.lineEntry (account issuer currency : String) (ledger : LedgerSelector) :
    Heeds (lineEntry account issuer currency ledger :
        FixtureM (Watched σ) ε (Except RemoteError LineEntry))
      (lineEntry account issuer currency ledger) := by
  refine Heeds.connected.bind fun _ => (Heeds.address account).bind fun address => ?_
  refine (Heeds.address issuer).bind fun issuer => ?_
  rw [Client.lineEntry_eq, Client.lineEntry_eq]
  refine .ask _ settles_entry ?_ ?_ <;>
  · rintro ((e | _) | entry) scene
    · cases e <;> rfl
    · rfl
    · rfl

theorem Heeds.findPaths (source destination amount : String) (currencies : List String) :
    Heeds (findPaths source destination amount currencies : FixtureM (Watched σ) ε PathsFound)
      (findPaths source destination amount currencies) := by
  refine Heeds.connected.bind fun _ => (Heeds.address source).bind fun source => ?_
  refine (Heeds.address destination).bind fun destination => (Heeds.amount amount).bind fun _ => ?_
  rw [Client.findPaths_eq, Client.findPaths_eq]
  exact .call _

/-- The keys of the root account, asked for over a connection that is not given up afterwards. -/
def askRoot : FixtureM σ ε KeyPair := do
  let secret := ((← get).stage.world.machine.setting? "DIVVYD_ROOT_SECRET").getD genesisPassphrase
  match ← Fixture.ask (Client.walletPropose (some secret)) with
  | .ok keys => return keys
  | .error fault => throw (fault.toFailure.inContext "Unable to recover the root account keys")

theorem settles_root : Settles fun outcome : Except Fault KeyPair => outcome.mapError fun fault =>
    fault.toFailure.inContext "Unable to recover the root account keys" := by
  refine ⟨⟨["Unable to recover the root account keys"], rfl⟩, ?_⟩
  rintro (fault | keys) failure hopen ⟨⟩
  exact abortReason?_toFailure fun h => hopen (congrArg _ h)

theorem Heeds.askRoot : Heeds (askRoot : FixtureM (Watched σ) ε KeyPair) askRoot := by
  refine .get fun scene => ?_
  simp only [Client.walletPropose_eq]
  refine Heeds.ask _ settles_root ?_ ?_ scene <;>
  · rintro (fault | keys) scene <;> rfl

def unlinked (scene : Scene (Bench ε) (Fixture σ)) : Scene (Bench ε) (Fixture σ) :=
  { scene with value := { scene.value with remote := none } }

theorem recoverRoot_eq (scene : Scene (Bench ε) (Fixture σ)) :
    recoverRoot scene = match askRoot scene with
      | (.ok keys, last) => (.ok keys, last)
      | (.error failure, last) => (.error failure, unlinked last) := by
  cases hremote : scene.value.remote with
  | none =>
    -- without a connection there is none to give up
    obtain ⟨stage, name, listener, ⟨remote, book, server⟩⟩ := scene
    obtain rfl := hremote
    rfl
  | some link =>
    let inquiry := Client.Inquiry.walletPropose (some
      ((scene.stage.world.machine.setting? "DIVVYD_ROOT_SECRET").getD genesisPassphrase))
    rcases hreply : Transport.request inquiry.command inquiry.params link with ⟨reply, link'⟩
    have hask := ask_run inquiry hreply scene hremote
    rw [← Client.walletPropose_eq] at hask
    rw [recoverRoot, askRoot, bind_ok (get_ok scene), bind_ok (get_ok scene)]
    rw [bind_ok hask, bind_ok hask]
    cases inquiry.outcome reply <;> rfl

inductive Helper where
  | createAccounts (funder amount : String) (names : List String) (defaultDivvy : Bool)
  | creditLimits (limits : List (String × String))
  | submit (tx : Transaction)
  | submitAndAccept (tx : Transaction)
  | submitTransaction (tx : Transaction)
  | ledgerAccept
  | accountFlags (account : String) (ledger : LedgerSelector)
  | accountLines (account : String) (peer : Option String) (ledger : LedgerSelector)
  | lineEntry (account issuer currency : String) (ledger : LedgerSelector)
  | findPaths (source destination amount : String) (currencies : List String)
  | recoverRoot

namespace Helper

def run : Helper → FixtureM σ ε Unit
  | .createAccounts funder amount names defaultDivvy =>
    Fixture.createAccounts funder amount names defaultDivvy
  | .creditLimits limits => Fixture.creditLimits limits
  | .submit tx => forget (Fixture.submit tx)
  | .submitAndAccept tx => forget (Fixture.submitAndAccept tx)
  | .submitTransaction tx => Fixture.submitTransaction tx
  | .ledgerAccept => Fixture.ledgerAccept
  | .accountFlags account ledger => forget (Fixture.accountFlags account ledger)
  | .accountLines account peer ledger => forget (Fixture.accountLines account peer ledger)
  | .lineEntry account issuer currency ledger =>
    forget (Fixture.lineEntry account issuer currency ledger)
  | .findPaths source destination amount currencies =>
    forget (Fixture.findPaths source destination amount currencies)
  | .recoverRoot => forget Fixture.recoverRoot

/-- What a helper does up to where it may give up its connection. -/
def asks : Helper → FixtureM σ ε Unit
  | .recoverRoot => forget askRoot
  | helper => helper.run

theorem heeds_asks (helper : Helper) :
    Heeds (helper.asks : FixtureM (Watched σ) ε Unit) helper.asks := by
  cases helper with
  | createAccounts funder amount names defaultDivvy =>
    exact .createAccounts funder amount names defaultDivvy
  | creditLimits limits => exact .creditLimits limits
  | submit tx => exact (Heeds.submit tx).forget
  | submitAndAccept tx => exact (Heeds.submitAndAccept tx).forget
  | submitTransaction tx => exact .submitTransaction tx
  | ledgerAccept => exact .ledgerAccept
  | accountFlags account ledger => exact (Heeds.accountFlags account ledger).forget
  | accountLines account peer ledger => exact (Heeds.accountLines account peer ledger).forget
  | lineEntry account issuer currency ledger =>
    exact (Heeds.lineEntry account issuer currency ledger).forget
  | findPaths source destination amount currencies =>
    exact (Heeds.findPaths source destination amount currencies).forget
  | recoverRoot => exact Heeds.askRoot.forget

def replies (helper : Helper) (scene : Scene (Bench ε) (Fixture σ)) :
    List (Except RemoteError Json) :=
  heard (helper.asks (watched scene)).2

theorem run_fst (helper : Helper) (scene : Scene (Bench ε) (Fixture σ)) :
    (helper.run scene).1 = (helper.asks scene).1 := by
  cases helper with
  | recoverRoot =>
    rw [run, asks, forget_run, forget_run, recoverRoot_eq]
    rcases askRoot scene with ⟨failure | keys, last⟩ <;> rfl
  | _ => rfl

theorem run_watched (helper : Helper) (scene : Scene (Bench ε) (Fixture (Watched σ))) :
    helper.run (unwatched scene) = ((helper.run scene).1, unwatched (helper.run scene).2) := by
  obtain ⟨replies, hsame, -⟩ := helper.heeds_asks scene
  cases helper with
  | recoverRoot =>
    obtain ⟨replies, hsame, -⟩ := Heeds.askRoot scene
    rw [run, run, forget_run, forget_run, recoverRoot_eq, recoverRoot_eq, hsame]
    rcases askRoot scene with ⟨failure | keys, last⟩ <;> rfl
  | _ => exact hsame

theorem closing (helper : Helper) (scene : Scene (Bench ε) (Fixture σ)) :
    Closing (helper.replies scene) (helper.run scene).1 := by
  obtain ⟨replies, hsame, hheard, hcloses⟩ := helper.heeds_asks (watched scene)
  rw [heard_watched, List.nil_append] at hheard
  rw [unwatched_watched] at hsame
  rw [Helper.replies, hheard, run_fst, hsame]
  exact hcloses

end Helper

end Fixture
end LedgerBench
