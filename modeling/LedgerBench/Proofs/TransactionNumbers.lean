import LedgerBench.Proofs.Ledger.Codec

/-! The numbers of a transaction in JSON: its flag word, and the settings that it names by number.
They stand there in 64 bits and are kept in 32. Those that fit are written again as they were read,
and a setting that fits and has no name is an error. -/

namespace LedgerBench

theorem widened_eq_iff {n : UInt64} : n.toUInt32.toUInt64 = n ↔ n.toNat < 2 ^ 32 := by
  rw [← UInt64.toNat_inj]
  simp

namespace AccountFlag

def numbers : List UInt64 := [1, 2, 3, 8]

theorem ofValue?_eq_some_iff {n : UInt32} {flag : AccountFlag} :
    ofValue? n = some flag ↔ flag.value = n := by
  constructor
  · intro h
    unfold ofValue? at h
    split_ifs at h with h1 h2 h3 h8
    · cases h
      exact h1.symm
    · cases h
      exact h2.symm
    · cases h
      exact h3.symm
    · cases h
      exact h8.symm
  · rintro rfl
    exact ofValue?_value flag

theorem value_mem_numbers (flag : AccountFlag) : flag.value.toUInt64 ∈ numbers := by
  cases flag <;> decide

theorem ofValue?_eq_none {n : UInt64} (hfits : n.toNat < 2 ^ 32) (hname : n ∉ numbers) :
    ofValue? n.toUInt32 = none := by
  cases hvalue : ofValue? n.toUInt32 with
  | none => rfl
  | some flag =>
    have hn : flag.value.toUInt64 = n := by
      rw [ofValue?_eq_some_iff.1 hvalue]
      exact widened_eq_iff.2 hfits
    exact absurd (hn ▸ value_mem_numbers flag) hname

end AccountFlag

namespace Transaction

/-- The fields of a transaction that hold numbers. -/
def numberFields : Transaction → List String
  | .accountSet .. => ["Flags", "SetFlag", "ClearFlag"]
  | .trustSet .. => ["Flags"]
  | .payment .. => []

def settingFields : List String := ["SetFlag", "ClearFlag"]

variable {json : Json} {name account : String} {flags : UInt32} {set clear : Option AccountFlag}
  {n : UInt64}

/-! ### What is written -/

theorem flags_toJson_accountSet :
    (toJson (.accountSet account flags set clear)).wordField? "Flags" = some flags.toUInt64 := by
  cases clear <;> rfl

theorem setFlag_toJson : (toJson (.accountSet account flags set clear)).wordField? "SetFlag" =
    set.map fun flag => flag.value.toUInt64 := by
  cases clear <;> cases set <;> rfl

theorem clearFlag_toJson : (toJson (.accountSet account flags set clear)).wordField? "ClearFlag" =
    clear.map fun flag => flag.value.toUInt64 := by
  cases clear <;> cases set <;> rfl

/-! ### What is read -/

theorem settingField_of_word (hword : json.wordField? name = some n) :
    settingField json name = match AccountFlag.ofValue? n.toUInt32 with
      | some flag => .ok (some flag)
      | none => .error (.unknownFlag name n) := by
  cases hvalue : AccountFlag.ofValue? n.toUInt32 <;> simp only [settingField, hword, hvalue]

theorem value_of_settingField {setting : Option AccountFlag}
    (h : settingField json name = .ok setting) (hword : json.wordField? name = some n) :
    setting.map (fun flag => flag.value.toUInt64) = some n.toUInt32.toUInt64 := by
  rw [settingField_of_word hword] at h
  cases hvalue : AccountFlag.ofValue? n.toUInt32 with
  | none =>
    rw [hvalue] at h
    cases h
  | some flag =>
    rw [hvalue] at h
    cases h
    rw [Option.map_some, AccountFlag.ofValue?_eq_some_iff.1 hvalue]

theorem wordField?_toJson_of_ofJson {buildPath : Bool} {tx : Transaction}
    (h : ofJson json buildPath = .ok tx) (hname : name ∈ tx.numberFields)
    (hword : json.wordField? name = some n) :
    tx.toJson.wordField? name = some n.toUInt32.toUInt64 := by
  obtain ⟨kind, -, h⟩ := of_bind_ok h
  split at h
  · obtain ⟨account, -, h⟩ := of_bind_ok h
    obtain ⟨set, hset, h⟩ := of_bind_ok h
    obtain ⟨clear, hclear, h⟩ := of_bind_ok h
    cases h
    simp only [numberFields, List.mem_cons, List.not_mem_nil, or_false] at hname
    rcases hname with rfl | rfl | rfl
    · rw [flags_toJson_accountSet, hword]
      rfl
    · rw [setFlag_toJson, value_of_settingField hset hword]
    · rw [clearFlag_toJson, value_of_settingField hclear hword]
  · obtain ⟨account, -, h⟩ := of_bind_ok h
    obtain ⟨limit, -, h⟩ := of_bind_ok h
    cases h
    obtain rfl := List.mem_singleton.1 hname
    rw [hword]
    rfl
  · obtain ⟨account, -, h⟩ := of_bind_ok h
    obtain ⟨destination, -, h⟩ := of_bind_ok h
    obtain ⟨amount, -, h⟩ := of_bind_ok h
    cases h
    cases hname
  · cases h

/-- Why an AccountSet is not read. -/
inductive Unread (json : Json) : DecodeError → Prop
  | account (hmissing : json.stringField? "Account" = none) :
      Unread json (.missingInTransaction "Account")
  | setting {name : String} {n : UInt64} (hname : name ∈ settingFields)
      (hword : json.wordField? name = some n) (hunknown : n ∉ AccountFlag.numbers) :
      Unread json (.unknownFlag name n)

theorem unread_of_settingField {e : DecodeError} (hname : name ∈ settingFields)
    (h : settingField json name = .error e) : Unread json e := by
  cases hword : json.wordField? name with
  | none =>
    simp only [settingField, hword] at h
    cases h
  | some n =>
    rw [settingField_of_word hword] at h
    cases hvalue : AccountFlag.ofValue? n.toUInt32 with
    | some flag =>
      rw [hvalue] at h
      cases h
    | none =>
      rw [hvalue] at h
      cases h
      refine .setting hname hword fun hmem => ?_
      simp only [AccountFlag.numbers, List.mem_cons, List.not_mem_nil, or_false] at hmem
      rcases hmem with rfl | rfl | rfl | rfl <;> cases hvalue

theorem ofJson_accountSet (htype : json.stringField? "TransactionType" = some "AccountSet")
    (buildPath : Bool) :
    ofJson json buildPath = (do
      let account ← textField json "Account"
      let set ← settingField json "SetFlag"
      let clear ← settingField json "ClearFlag"
      .ok (.accountSet account ((json.wordField? "Flags").getD 0).toUInt32 set clear)) := by
  have hkind : textField json "TransactionType" = .ok "AccountSet" := by
    simp only [textField, htype]
  rw [ofJson, hkind]
  rfl

theorem exists_unread (htype : json.stringField? "TransactionType" = some "AccountSet")
    (hname : name ∈ settingFields) (hword : json.wordField? name = some n)
    (hunknown : AccountFlag.ofValue? n.toUInt32 = none) (buildPath : Bool) :
    ∃ e, ofJson json buildPath = .error e ∧ Unread json e := by
  have hfails : settingField json name = .error (.unknownFlag name n) := by
    rw [settingField_of_word hword, hunknown]
  rw [ofJson_accountSet htype]
  cases haccount : json.stringField? "Account" with
  | none =>
    have hmissing : textField json "Account" = .error (.missingInTransaction "Account") := by
      simp only [textField, haccount]
    rw [hmissing]
    exact ⟨_, rfl, .account haccount⟩
  | some account =>
    have hread : textField json "Account" = .ok account := by
      simp only [textField, haccount]
    rw [hread]
    cases hset : settingField json "SetFlag" with
    | error e => exact ⟨e, rfl, unread_of_settingField (by simp [settingFields]) hset⟩
    | ok set =>
      cases hclear : settingField json "ClearFlag" with
      | error e => exact ⟨e, rfl, unread_of_settingField (by simp [settingFields]) hclear⟩
      | ok clear =>
        simp only [settingFields, List.mem_cons, List.not_mem_nil, or_false] at hname
        rcases hname with rfl | rfl
        · rw [hset] at hfails
          cases hfails
        · rw [hclear] at hfails
          cases hfails

/-- The numbers of a transaction that was read are written again as they were, exactly if they fit 32
bits. A setting that fits and is none of the known ones keeps an AccountSet from being read. -/
theorem numbers_are_kept (json : Json) (buildPath : Bool) :
    (∀ tx, ofJson json buildPath = .ok tx → ∀ name ∈ tx.numberFields, ∀ n,
      json.wordField? name = some n →
        (tx.toJson.wordField? name = some n ↔ n.toNat < 2 ^ 32)) ∧
      (json.stringField? "TransactionType" = some "AccountSet" → ∀ name ∈ settingFields, ∀ n,
        json.wordField? name = some n → n.toNat < 2 ^ 32 → n ∉ AccountFlag.numbers →
          ∃ e, ofJson json buildPath = .error e ∧ Unread json e) := by
  constructor
  · intro tx h name hname n hword
    rw [wordField?_toJson_of_ofJson h hname hword, Option.some_inj]
    exact widened_eq_iff
  · intro htype name hname n hword hfits hunknown
    exact exists_unread htype hname hword (AccountFlag.ofValue?_eq_none hfits hunknown) buildPath

/-- The largest flag word is kept, and a setting that is none is named in the error. -/
theorem largest_flags_are_kept :
    let kept : Json := .object [("Account", .string "rAlice"), ("Flags", .natural 4294967295),
      ("SetFlag", .natural 8), ("TransactionType", .string "AccountSet")]
    let unknown : Json := .object [("Account", .string "rAlice"), ("ClearFlag", .natural 4),
      ("TransactionType", .string "AccountSet")]
    (∃ tx, ofJson kept false = .ok tx ∧ "Flags" ∈ tx.numberFields ∧
      tx.toJson.wordField? "Flags" = some 4294967295) ∧
      ∃ e, ofJson unknown false = .error e ∧ Unread unknown e := by
  intro kept unknown
  have hread : ofJson kept false = .ok (.accountSet "rAlice" 4294967295 (some .defaultDivvy) none) :=
    rfl
  have hflags : "Flags" ∈ numberFields (.accountSet "rAlice" 4294967295 (some .defaultDivvy) none) := by
    decide
  obtain ⟨hkept, -⟩ := numbers_are_kept kept false
  obtain ⟨-, hrefused⟩ := numbers_are_kept unknown false
  exact ⟨⟨_, hread, hflags, (hkept _ hread _ hflags 4294967295 rfl).2 (by decide)⟩,
    hrefused rfl "ClearFlag" (by decide) 4 rfl (by decide) (by decide)⟩

/-- A setting of more than 32 bits is taken for the one that its low bits name, and a flag word of
more than 32 bits is cut short. -/
theorem large_numbers_change :
    let setting : Json := .object [("Account", .string "rAlice"), ("SetFlag", .natural 4294967297),
      ("TransactionType", .string "AccountSet")]
    let word : Json := .object [("Account", .string "rAlice"), ("Flags", .natural 4295032832),
      ("TransactionType", .string "AccountSet")]
    4294967297 ∉ AccountFlag.numbers ∧
      (∃ tx, ofJson setting false = .ok tx ∧ "SetFlag" ∈ tx.numberFields ∧
        tx.toJson.wordField? "SetFlag" = some 1) ∧
      ∃ tx, ofJson word false = .ok tx ∧ "Flags" ∈ tx.numberFields ∧
        tx.toJson.wordField? "Flags" = some 65536 := by
  intro setting word
  exact ⟨by decide, ⟨.accountSet "rAlice" 0 (some .requireDest) none, rfl, by decide, rfl⟩,
    .accountSet "rAlice" (UInt64.toUInt32 4295032832) none none, rfl, by decide, by decide⟩

end Transaction
end LedgerBench
