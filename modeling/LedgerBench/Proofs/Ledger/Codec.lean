import LedgerBench.Proofs.Decimal.RoundTrip
import LedgerBench.Proofs.Ledger.Effect

/-! What a ledger writes as JSON is read back unchanged. -/

namespace LedgerBench

namespace Amount

theorem ofJson_toJson (a : Amount) : ofJson a.toJson = .ok a := by
  cases a with
  | native drops => simp only [toJson, ofJson, Decimal.readWord_toString]
  | issued value currency issuer =>
    have hvalue : textField (issued value currency issuer).toJson "value" =
        .ok (Decimal.textOf Decimal.plain value) := rfl
    have hcurrency : textField (issued value currency issuer).toJson "currency" = .ok currency := rfl
    have hissuer : textField (issued value currency issuer).toJson "issuer" = .ok issuer := rfl
    simp only [toJson] at hvalue hcurrency hissuer
    simp only [toJson, ofJson, hvalue, hcurrency, hissuer, Decimal.readReal_textOf, bind,
      Except.bind]

end Amount

namespace AccountFlag

theorem ofValue?_value (flag : AccountFlag) : ofValue? flag.value = some flag := by
  cases flag <;> rfl

end AccountFlag

namespace Transaction

theorem settingField_some {tx : Json} {name : String} {flag : AccountFlag}
    (h : tx.field? name = some (word32 flag.value)) : settingField tx name = .ok (some flag) := by
  have hw : tx.wordField? name = some flag.value.toUInt64 := by
    simp only [Json.wordField?, h]
    rfl
  simp only [settingField, hw, UInt32.toUInt32_toUInt64, AccountFlag.ofValue?_value]

theorem settingField_none {tx : Json} {name : String} (h : tx.field? name = none) :
    settingField tx name = .ok none := by
  have hw : tx.wordField? name = none := by
    simp only [Json.wordField?, h]
    rfl
  simp only [settingField, hw]

theorem ofJson_toJson_withBuildPath (tx : Transaction) (buildPath : Bool) :
    ofJson tx.toJson buildPath = .ok (tx.withBuildPath buildPath) := by
  cases tx with
  | accountSet account flags set clear =>
    have hset : settingField (toJson (.accountSet account flags set clear)) "SetFlag" = .ok set := by
      cases set with
      | none => exact settingField_none (by cases clear <;> rfl)
      | some flag => exact settingField_some (by cases clear <;> rfl)
    have hclear :
        settingField (toJson (.accountSet account flags set clear)) "ClearFlag" = .ok clear := by
      cases clear with
      | none => exact settingField_none (by cases set <;> rfl)
      | some flag => exact settingField_some rfl
    have htype : textField (toJson (.accountSet account flags set clear)) "TransactionType" =
        .ok "AccountSet" := by
      cases clear <;> cases set <;> rfl
    have hflags : ((toJson (.accountSet account flags set clear)).wordField? "Flags") =
        some flags.toUInt64 := by
      cases clear <;> rfl
    have haccount : textField (toJson (.accountSet account flags set clear)) "Account" =
        .ok account := rfl
    simp only [ofJson, htype, haccount, hset, hclear, hflags]
    simp only [bind, Except.bind, Option.getD_some, UInt32.toUInt32_toUInt64, withBuildPath]
  | trustSet account limit flags =>
    calc ofJson (toJson (.trustSet account limit flags)) buildPath
        = (Amount.ofJson limit.toJson).bind fun read =>
            .ok (.trustSet account read flags.toUInt64.toUInt32) := rfl
      _ = .ok (.trustSet account limit flags) := by
        rw [limit.ofJson_toJson, UInt32.toUInt32_toUInt64, Except.bind]
  | payment account destination amount wanted =>
    calc ofJson (toJson (.payment account destination amount wanted)) buildPath
        = (Amount.ofJson amount.toJson).bind fun read =>
            .ok (.payment account destination read buildPath) := rfl
      _ = .ok (.payment account destination amount buildPath) := by
        rw [amount.ofJson_toJson, Except.bind]

theorem withBuildPath_buildPath (tx : Transaction) : tx.withBuildPath tx.buildPath = tx := by
  cases tx <;> rfl

theorem ofJson_toJson (tx : Transaction) : ofJson tx.toJson tx.buildPath = .ok tx := by
  rw [ofJson_toJson_withBuildPath, withBuildPath_buildPath]

/-! What a transaction that was read says of the JSON it came from. -/

theorem of_bind_ok {ε α β : Type} {read : Except ε α} {next : α → Except ε β} {b : β}
    (h : read >>= next = .ok b) : ∃ a, read = .ok a ∧ next a = .ok b := by
  cases read with
  | error e => cases h
  | ok a => exact ⟨a, rfl, h⟩

theorem stringField?_of_textField {json : Json} {name text : String}
    (h : textField json name = .ok text) : json.stringField? name = some text := by
  simp only [textField] at h
  cases hfield : json.stringField? name with
  | none =>
    rw [hfield] at h
    cases h
  | some found =>
    rw [hfield] at h
    cases h
    rfl

/-- Drops are written as a text and an issued amount as an object. -/
theorem isSome_of_amountField {json : Json} {name : String} {amount : Amount}
    (h : amountField json name = .ok amount) :
    (json.stringField? name).isSome = amount.isNative := by
  simp only [amountField] at h
  cases hfield : json.field? name with
  | none =>
    rw [hfield] at h
    cases h
  | some found =>
    simp only [hfield] at h
    simp only [Json.stringField?, hfield, Option.bind_some]
    cases found with
    | string text =>
      simp only [Amount.ofJson] at h
      split at h
      · cases h
        rfl
      · cases h
    | object members =>
      obtain ⟨text, -, h⟩ := of_bind_ok h
      split at h
      · cases h
      · obtain ⟨currency, -, h⟩ := of_bind_ok h
        obtain ⟨issuer, -, h⟩ := of_bind_ok h
        cases h
        rfl
    | null | bool | number | array => cases h

end Transaction

namespace EngineResult

theorem ofCode_code_apply (ledger : Ledger) (tx : Transaction) :
    ofCode (ledger.apply tx).1.code = (ledger.apply tx).1 := by
  rcases ledger.apply_cases tx with ⟨_, _, _, ha⟩ | ⟨r, hr, ha⟩
  · rw [ha]
    rfl
  · rw [ha]
    simp only [Ledger.refusals, List.mem_cons, List.not_mem_nil, or_false] at hr
    rcases hr with rfl | rfl | rfl | rfl | rfl | rfl | rfl <;> rfl

end EngineResult

/-- Every amount and every transaction is read back from its JSON as it was: all of its accounts,
all 32 bits of its flags, its settings whether they are there or not, and its amounts to the last
drop and the last bit. -/
theorem codec_inverts (tx : Transaction) (amount : Amount) :
    Transaction.ofJson tx.toJson tx.buildPath = .ok tx ∧
      (∀ buildPath, Transaction.ofJson tx.toJson buildPath = .ok (tx.withBuildPath buildPath)) ∧
      Amount.ofJson amount.toJson = .ok amount :=
  ⟨tx.ofJson_toJson, tx.ofJson_toJson_withBuildPath, amount.ofJson_toJson⟩

end LedgerBench
