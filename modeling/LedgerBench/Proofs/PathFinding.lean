import LedgerBench.Proofs.Ledger.Codec
import LedgerBench.Proofs.Ledger.Routes
import LedgerBench.Proofs.Server.Handled

/-! Asking for the paths of an amount and paying it come to the same verdict, and the answer names the
accounts through which the routes lead. -/

namespace LedgerBench

namespace Ledger

theorem paymentPath_true (ledger : Ledger) (source destination currency : String) (value : Float) :
    ledger.paymentPath source destination currency value true =
      (ledger.findPaths source destination currency value).head? := by
  unfold paymentPath
  cases ledger.findPaths source destination currency value <;> rfl

theorem apply_payment_issued {ledger : Ledger} {source : String} {account : Account}
    (hsource : ledger.account? source = some account) (destination currency issuer : String)
    (value : Float) :
    (ledger.apply (.payment source destination (.issued value currency issuer) true)).1 =
      if ledger.findPaths source destination currency value = [] then .pathDry else .success := by
  rw [apply_fst (.payment source destination (.issued value currency issuer) true) hsource]
  simp only [applyKind, applyPayment, paymentPath_true]
  cases ledger.findPaths source destination currency value with
  | nil => rfl
  | cons path rest => rfl

end Ledger

namespace Server

/-- The account in the middle of a route through one other account. -/
def intermediate? : List String → Option String
  | [_, through, _] => some through
  | _ => none

/-- How a route through one other account is told. -/
def routeJson (currency through : String) : Json :=
  .array [.object [("account", .string through), ("currency", .string currency)]]

/-- A request for the paths of an issued amount in the open ledger. It names the currency of the
amount among those that the source can spend. -/
structure AsksForPaths (params : Json) (source destination currency issuer : String)
    (value : Float) : Prop where
  source : params.stringField? "source_account" = some source
  destination : params.stringField? "destination_account" = some destination
  amount : ∃ amountJson, params.field? "destination_amount" = some amountJson ∧
    Amount.ofJson amountJson = .ok (.issued value currency issuer)
  currency : ∃ wanted, params.field? "source_currencies" = some (.array wanted) ∧
    ∃ c ∈ wanted, c.stringField? "currency" = some currency
  ledger : params.stringField? "ledger_index" ∈ [none, some "current"]

theorem AsksForPaths.wantsCurrency {params : Json} {source destination currency issuer : String}
    {value : Float} (h : AsksForPaths params source destination currency issuer value) :
    wantsCurrency params currency = true := by
  obtain ⟨wanted, hwanted, c, hc, hname⟩ := h.currency
  simp only [Server.wantsCurrency, hwanted, Option.bind_some, Json.array?, List.any_eq_true]
  exact ⟨c, hc, by simp [hname]⟩

theorem AsksForPaths.pathFind {server : Server} {params : Json}
    {source destination currency issuer : String} {value : Float}
    (h : AsksForPaths params source destination currency issuer value) {account : Account}
    (hsource : server.current.account? source = some account) :
    server.pathFind params =
      .ok (.object [("alternatives", .array (alternativesJson source currency value
          (server.current.findPaths source destination currency value))),
        ("destination_account", .string destination), ("source_account", .string source)]) := by
  obtain ⟨amountJson, hamount, hdecoded⟩ := h.amount
  have hselected := server.selected_current h.ledger
  simp only [Server.pathFind, textParam, h.source, h.destination, hamount, hdecoded, hselected,
    hsource, h.wantsCurrency, bind, Except.bind]
  rfl

theorem map_pathJson {paths : List (List String)} {source destination : String}
    (h : ∀ path ∈ paths, path = [source, destination] ∨
      ∃ through, path = [source, through, destination]) (currency : String) :
    (paths.filter fun path => 2 < path.length).map (pathJson currency) =
      (paths.filterMap intermediate?).map (routeJson currency) := by
  induction paths with
  | nil => rfl
  | cons path rest ih =>
    obtain ⟨hpath, hrest⟩ := List.forall_mem_cons.1 h
    rcases hpath with rfl | ⟨through, rfl⟩
    · exact ih hrest
    · exact congrArg (routeJson currency through :: ·) (ih hrest)

theorem alternativesJson_of_ne_nil {paths : List (List String)} (h : paths ≠ [])
    (source currency : String) (value : Float) :
    ∃ alternative, alternativesJson source currency value paths = [alternative] ∧
      alternative.field? "paths_computed" =
        some (.array ((paths.filter fun path => 2 < path.length).map (pathJson currency))) := by
  have hempty : paths.isEmpty = false := by simpa using h
  simp only [alternativesJson, hempty]
  exact ⟨_, rfl, rfl⟩

theorem request_pathFind {server : Server} (hopen : server.closed = false) {params : Json}
    {source destination currency issuer : String} {value : Float}
    (hquery : AsksForPaths params source destination currency issuer value) {account : Account}
    (hsource : server.current.account? source = some account) :
    ∃ reply, server.request "divvy_path_find" params = (.ok reply, server) ∧
      reply.path? ["result", "alternatives"] =
        some (.array (alternativesJson source currency value
          (server.current.findPaths source destination currency value))) := by
  have hfind := hquery.pathFind hsource
  simp only [request, hopen, handle, hfind]
  exact ⟨_, rfl, rfl⟩

/-- A request for the paths of an issued amount finds an alternative, and then just one, exactly if
the payment of this amount succeeds on the same ledger; else the payment finds no path either. The
alternative lists the accounts between the two ends, one for each route that is not direct. -/
theorem pathFind_agrees_with_payment {server : Server} (hopen : server.closed = false)
    {params : Json} {source destination currency issuer : String} {value : Float}
    (hquery : AsksForPaths params source destination currency issuer value) {account : Account}
    (hsource : server.current.account? source = some account) :
    let paths := server.current.findPaths source destination currency value
    let result := (server.current.apply
      (.payment source destination (.issued value currency issuer) true)).1
    ∃ reply alternatives, server.request "divvy_path_find" params = (.ok reply, server) ∧
      reply.path? ["result", "alternatives"] = some (.array alternatives) ∧
      (alternatives ≠ [] ↔ result = .success) ∧
      (alternatives ≠ [] → ∃ alternative, alternatives = [alternative] ∧
        alternative.field? "paths_computed" =
          some (.array ((paths.filterMap intermediate?).map (routeJson currency)))) ∧
      (alternatives = [] → result = .pathDry) := by
  intro paths result
  obtain ⟨reply, hreply, halternatives⟩ := request_pathFind hopen hquery hsource
  have hresult : result = if paths = [] then .pathDry else .success :=
    Ledger.apply_payment_issued hsource destination currency issuer value
  refine ⟨reply, alternativesJson source currency value paths, hreply, halternatives, ?_⟩
  by_cases hnone : paths = []
  · have hdry : result = .pathDry := by rw [hresult, if_pos hnone]
    have hempty : alternativesJson source currency value paths = [] := by rw [hnone]; rfl
    rw [hdry, hempty]
    simp
  · have hsuccess : result = .success := by rw [hresult, if_neg hnone]
    obtain ⟨alternative, hone, hcomputed⟩ :=
      alternativesJson_of_ne_nil hnone source currency value
    rw [map_pathJson fun _ hpath => Ledger.eq_of_mem_findPaths hpath] at hcomputed
    rw [hsuccess, hone]
    exact ⟨by simp, fun _ => ⟨alternative, rfl, hcomputed⟩, by simp⟩

/-- A request for the paths of fifty units. -/
def routeParams : Json :=
  .object [("destination_account", .string "rCarol"),
    ("destination_amount", (Amount.issued 50 "USD" "rCarol").toJson),
    ("source_account", .string "rAlice"),
    ("source_currencies", .array [.object [("currency", .string "EUR")],
      .object [("currency", .string "USD")]])]

theorem twoLines_alternative :
    let server := { start (.seeded 0) with current := Ledger.twoLines }
    server.closed = false ∧ server.current.account? "rAlice" = some ⟨10, .none, 1⟩ ∧
      AsksForPaths routeParams "rAlice" "rCarol" "USD" "rCarol" 50 ∧
      ∃ reply alternative, server.request "divvy_path_find" routeParams = (.ok reply, server) ∧
        reply.path? ["result", "alternatives"] = some (.array [alternative]) ∧
        alternative.field? "paths_computed" = some (.array [routeJson "USD" "rBob"]) := by
  intro server
  have hopen : server.closed = false := rfl
  have hquery : AsksForPaths routeParams "rAlice" "rCarol" "USD" "rCarol" 50 :=
    ⟨rfl, rfl, ⟨(Amount.issued 50 "USD" "rCarol").toJson, rfl, Amount.ofJson_toJson _⟩,
      ⟨_, rfl, _, .tail _ (.head _), rfl⟩, by decide⟩
  have hsource : server.current.account? "rAlice" = some ⟨10, .none, 1⟩ := by decide +kernel
  have hpaths : server.current.findPaths "rAlice" "rCarol" "USD" 50 =
      [["rAlice", "rBob", "rCarol"]] := by decide +kernel
  obtain ⟨reply, alternatives, hreply, halternatives, hiff, hone, -⟩ :=
    pathFind_agrees_with_payment hopen hquery hsource
  have hpaid : (server.current.apply
      (.payment "rAlice" "rCarol" (.issued 50 "USD" "rCarol") true)).1 = .success := by
    decide +kernel
  obtain ⟨alternative, rfl, hcomputed⟩ := hone (hiff.2 hpaid)
  rw [hpaths] at hcomputed
  exact ⟨hopen, hsource, hquery, reply, alternative, hreply, halternatives, hcomputed⟩

end Server
end LedgerBench
