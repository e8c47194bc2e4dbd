import LedgerBench.Fixture.AccountBook
import LedgerBench.Proofs.Decimal.RoundTrip
import LedgerBench.Proofs.Text.Parts

/-! Which texts are amounts, and whose amounts they are. The slashes of a text decide what it has to
be: a number alone is a native amount, three parts are an issued one. Its number is looked at only
after that. In a text of a scenario the issuer may be a name of the account book. -/

namespace LedgerBench

open Text (Trimmed)

namespace Amount

/-- A finite number as a text, with blanks around it. -/
def Reads (part : List Char) (x : Float) : Prop :=
  ∃ core, Trimmed part core ∧ Decimal.readReal core = .ok x ∧ x.isFinite = true

/-- The three parts of a text at its only two slashes. -/
structure Parts (text : String) (number : List Char) (currency issuer : String) : Prop where
  eq : text.toList = number ++ '/' :: (currency.toList ++ '/' :: issuer.toList)
  number_free : '/' ∉ number
  currency_free : '/' ∉ currency.toList
  issuer_free : '/' ∉ issuer.toList

/-- What a text is read as: an amount, or the first thing that is wrong. -/
inductive Reading (text : String) : Except AmountError Amount → Prop where
  | native {x : Float} (hplain : '/' ∉ text.toList) (hreads : Reads text.toList x) (hx : ¬x < 0) :
      Reading text (.ok (.native (dropsOf x)))
  | negative {x : Float} (hplain : '/' ∉ text.toList) (hreads : Reads text.toList x)
      (hx : x < 0) : Reading text (.error (.negativeNative text))
  | undefined (hplain : '/' ∉ text.toList) (hnone : ∀ x, ¬Reads text.toList x) :
      Reading text (.error (.invalidValue text))
  | issued {number : List Char} {currency issuer : String} {x : Float}
      (hparts : Parts text number currency issuer) (hcurrency : currency ≠ "")
      (hissuer : issuer ≠ "") (hreads : Reads number x) :
      Reading text (.ok (.issued x currency issuer))
  | undefinedIssued {number : List Char} {currency issuer : String}
      (hparts : Parts text number currency issuer) (hcurrency : currency ≠ "")
      (hissuer : issuer ≠ "") (hnone : ∀ x, ¬Reads number x) :
      Reading text (.error (.invalidValue text))
  | nameless {number : List Char} {currency issuer : String}
      (hparts : Parts text number currency issuer) (hnameless : currency = "" ∨ issuer = "") :
      Reading text (.error (.invalidFormat text))
  | slashes (hsome : text.toList.count '/' ≠ 0) (hnotTwo : text.toList.count '/' ≠ 2) :
      Reading text (.error (.invalidFormat text))

section Shape

variable {text currency issuer : String} {part number : List Char} {x : Float}

theorem parts_iff : Parts text number currency issuer ↔
    Text.splitAtEach '/' text.toList = [number, currency.toList, issuer.toList] := by
  rw [Text.splitAtEach_eq_iff]
  simp only [ne_eq, List.cons_ne_nil, not_false_eq_true, true_and, List.forall_mem_cons,
    List.not_mem_nil, false_imp_iff, implies_true, and_true, List.intercalate_cons_cons,
    List.intercalate_singleton]
  simp only [List.append_assoc, List.singleton_append]
  exact ⟨fun h => ⟨h.eq.symm, h.number_free, h.currency_free, h.issuer_free⟩,
    fun h => ⟨h.1.symm, h.2.1, h.2.2.1, h.2.2.2⟩⟩

theorem Parts.parse_eq (h : Parts text number currency issuer) :
    parse text =
      if currency = "" ∨ issuer = "" then .error (.invalidFormat text)
      else
        match readValue number with
        | none => .error (.invalidValue text)
        | some x => .ok (.issued x currency issuer) := by
  cases hread : readValue number with
  | none | some =>
    simp only [parse, parts_iff.1 h, List.isEmpty_iff, Bool.or_eq_true, String.toList_eq_nil_iff,
      String.ofList_toList, hread]

theorem exists_parts (h : text.toList.count '/' = 2) :
    ∃ number currency issuer, Parts text number currency issuer := by
  have hlength := Text.length_splitAtEach '/' text.toList
  rw [h] at hlength
  match hparts : Text.splitAtEach '/' text.toList, hlength with
  | [number, currency, issuer], _ =>
    refine ⟨number, String.ofList currency, String.ofList issuer, parts_iff.2 ?_⟩
    rw [hparts, String.toList_ofList, String.toList_ofList]

theorem parse_of_count (hsome : text.toList.count '/' ≠ 0) (hnotTwo : text.toList.count '/' ≠ 2) :
    parse text = .error (.invalidFormat text) := by
  have hlength := Text.length_splitAtEach '/' text.toList
  unfold parse
  split
  · next part hparts =>
    rw [hparts, List.length_singleton] at hlength
    exact absurd (Nat.succ.inj hlength).symm hsome
  · next number currency issuer hparts =>
    rw [hparts] at hlength
    exact absurd (Nat.succ.inj hlength).symm hnotTwo
  · rfl

theorem readValue_eq_some_iff : readValue part = some x ↔ Reads part x := by
  have hread : readValue part = some x ↔
      Decimal.readReal (Text.trimBlanks part) = .ok x ∧ x.isFinite = true := by
    unfold readValue
    split
    · next y hy =>
      rw [hy, Except.ok.injEq, Option.ite_none_right_eq_some, Option.some.injEq]
      constructor
      · rintro ⟨hfinite, rfl⟩
        exact ⟨rfl, hfinite⟩
      · rintro ⟨rfl, hfinite⟩
        exact ⟨hfinite, rfl⟩
    · next e he => simp [he]
  rw [hread]
  constructor
  · exact fun h => ⟨_, Text.trimmed_trimBlanks part, h⟩
  · rintro ⟨core, htrimmed, h⟩
    rwa [htrimmed.trimBlanks_eq]

theorem readValue_eq_none (h : ∀ x, ¬Reads part x) : readValue part = none :=
  Option.eq_none_iff_forall_not_mem.2 fun x hx => h x (readValue_eq_some_iff.1 hx)

end Shape

namespace Reading

variable {text : String}

theorem parse_eq {result : Except AmountError Amount} (h : Reading text result) :
    parse text = result := by
  cases h with
  | native hplain hreads hx =>
    simp only [parse, Text.splitAtEach_of_not_mem hplain, readValue_eq_some_iff.2 hreads, hx,
      if_false]
  | negative hplain hreads hx =>
    simp only [parse, Text.splitAtEach_of_not_mem hplain, readValue_eq_some_iff.2 hreads, hx,
      if_true]
  | undefined hplain hnone =>
    simp only [parse, Text.splitAtEach_of_not_mem hplain, readValue_eq_none hnone]
  | issued hparts hcurrency hissuer hreads =>
    rw [hparts.parse_eq, if_neg (not_or.2 ⟨hcurrency, hissuer⟩), readValue_eq_some_iff.2 hreads]
  | undefinedIssued hparts hcurrency hissuer hnone =>
    rw [hparts.parse_eq, if_neg (not_or.2 ⟨hcurrency, hissuer⟩), readValue_eq_none hnone]
  | nameless hparts hnameless => rw [hparts.parse_eq, if_pos hnameless]
  | slashes hsome hnotTwo => exact parse_of_count hsome hnotTwo

theorem exists_of_parts {number : List Char} {currency issuer : String}
    (hparts : Parts text number currency issuer) : ∃ result, Reading text result := by
  by_cases hcurrency : currency = ""
  · exact ⟨_, .nameless hparts (.inl hcurrency)⟩
  · by_cases hissuer : issuer = ""
    · exact ⟨_, .nameless hparts (.inr hissuer)⟩
    · by_cases hreads : ∃ x, Reads number x
      · obtain ⟨x, hreads⟩ := hreads
        exact ⟨_, .issued hparts hcurrency hissuer hreads⟩
      · exact ⟨_, .undefinedIssued hparts hcurrency hissuer (not_exists.1 hreads)⟩

theorem exists_of_plain (hplain : '/' ∉ text.toList) : ∃ result, Reading text result := by
  by_cases hreads : ∃ x, Reads text.toList x
  · obtain ⟨x, hreads⟩ := hreads
    by_cases hx : x < 0
    · exact ⟨_, .negative hplain hreads hx⟩
    · exact ⟨_, .native hplain hreads hx⟩
  · exact ⟨_, .undefined hplain (not_exists.1 hreads)⟩

theorem of_parse (text : String) : Reading text (Amount.parse text) := by
  obtain ⟨result, h⟩ : ∃ result, Reading text result := by
    by_cases hplain : text.toList.count '/' = 0
    · exact exists_of_plain (List.count_eq_zero.1 hplain)
    · by_cases htwo : text.toList.count '/' = 2
      · obtain ⟨number, currency, issuer, hparts⟩ := exists_parts htwo
        exact exists_of_parts hparts
      · exact ⟨_, .slashes hplain htwo⟩
  rwa [h.parse_eq]

end Reading

end Amount

/-! ### Texts that are written -/

namespace Amount

theorem reads_textOf {x : Float} (hfinite : x.isFinite = true) :
    Reads (Decimal.textOf Decimal.plain x).toList x := by
  have hblank : ∀ c ∈ (Decimal.textOf Decimal.plain x).toList, Text.isBlank c = false := by
    intro c hc
    rcases Decimal.mem_textOf_plain hfinite hc with hdigit | rfl | rfl
    · exact Text.isBlank_of_isDigit (Decimal.isDigit_eq c ▸ hdigit)
    · decide
    · decide
  exact ⟨_, Text.trimBlanks_eq_iff.1 (Text.trimBlanks_eq_self hblank),
    Decimal.readReal_textOf x, hfinite⟩

theorem parts_written {x : Float} (hfinite : x.isFinite = true) {currency issuer : String}
    (hcurrency : '/' ∉ currency.toList) (hissuer : '/' ∉ issuer.toList) :
    Parts (Decimal.textOf Decimal.plain x ++ "/" ++ currency ++ "/" ++ issuer)
      (Decimal.textOf Decimal.plain x).toList currency issuer := by
  refine ⟨by simp, fun hmem => ?_, hcurrency, hissuer⟩
  rcases Decimal.mem_textOf_plain hfinite hmem with hdigit | hpoint | hminus
  · exact absurd hdigit (by decide)
  · exact absurd hpoint (by decide)
  · exact absurd hminus (by decide)

end Amount

/-! ### Names of issuers -/

namespace AccountBook

variable {book : AccountBook} {text : String}

/-- The length in bytes and the first letter of an address. -/
def AddressLike (text : String) : Prop :=
  text.toList.head? = some 'r' ∧ 25 ≤ text.utf8ByteSize ∧ text.utf8ByteSize ≤ 35

/-- The amount with the address of its issuer, if the issuer is a name of the book. -/
def named (book : AccountBook) : Amount → Amount
  | .native drops => .native drops
  | .issued value currency issuer =>
    .issued value currency (((book.get? issuer).map (·.address)).getD issuer)

/-- The issuer is neither a name of the book nor an address. -/
def IssuerUnknown (book : AccountBook) (amount : Amount) : Prop :=
  ∃ value currency issuer, amount = .issued value currency issuer ∧ book.get? issuer = none ∧
    ¬AddressLike issuer

theorem looksLikeAddress_iff : looksLikeAddress text = true ↔ AddressLike text := by
  have hfirst : ['r'].isPrefixOf text.toList = true ↔ text.toList.head? = some 'r' := by
    cases text.toList with
    | nil => simp
    | cons c rest =>
      change (('r' == c) && true) = true ↔ some c = some 'r'
      rw [Bool.and_true, beq_iff_eq, Option.some.injEq]
      exact eq_comm
  simp only [looksLikeAddress, AddressLike, Bool.and_eq_true, decide_eq_true_eq, hfirst, and_assoc]

theorem amount_of_error {e : AmountError} (h : Amount.parse text = .error e) :
    ∃ failure, book.amount text = .error failure := by
  simp only [amount, h]
  exact ⟨_, rfl⟩

theorem amount_of_unknown {read : Amount} (h : Amount.parse text = .ok read)
    (hunknown : book.IssuerUnknown read) : ∃ failure, book.amount text = .error failure := by
  obtain ⟨value, currency, issuer, rfl, hname, haddress⟩ := hunknown
  rw [← looksLikeAddress_iff] at haddress
  simp only [amount, h, Amount.issuer?, address, hname, haddress]
  exact ⟨_, rfl⟩

theorem amount_of_known {read : Amount} (h : Amount.parse text = .ok read)
    (hknown : ¬book.IssuerUnknown read) : book.amount text = .ok (book.named read) := by
  cases read with
  | native drops =>
    simp only [amount, h, Amount.issuer?]
    rfl
  | issued value currency issuer =>
    cases hname : book.get? issuer with
    | some keys =>
      simp only [amount, h, Amount.issuer?, address, named, hname]
      rfl
    | none =>
      have haddress : looksLikeAddress issuer = true := by
        by_contra hnot
        rw [looksLikeAddress_iff] at hnot
        exact hknown ⟨value, currency, issuer, rfl, hname, hnot⟩
      simp only [amount, h, Amount.issuer?, address, named, hname, haddress, if_true]
      rfl

theorem exists_amount_error_iff :
    (∃ failure, book.amount text = .error failure) ↔
      (∃ e, Amount.parse text = .error e) ∨
        ∃ read, Amount.parse text = .ok read ∧ book.IssuerUnknown read := by
  constructor
  · rintro ⟨failure, hfailure⟩
    cases hparse : Amount.parse text with
    | error e => exact .inl ⟨e, rfl⟩
    | ok read =>
      refine .inr ⟨read, rfl, ?_⟩
      by_contra hknown
      rw [amount_of_known hparse hknown] at hfailure
      cases hfailure
  · rintro (⟨e, he⟩ | ⟨read, hread, hunknown⟩)
    · exact amount_of_error he
    · exact amount_of_unknown hread hunknown

theorem exists_read_of_amount {amount : Amount} (h : book.amount text = .ok amount) :
    ∃ read, Amount.parse text = .ok read ∧ amount = book.named read := by
  have hok : ¬∃ failure, book.amount text = .error failure := by
    rintro ⟨failure, hfailure⟩
    rw [h] at hfailure
    cases hfailure
  rw [exists_amount_error_iff, not_or] at hok
  cases hparse : Amount.parse text with
  | error e => exact absurd ⟨e, hparse⟩ hok.1
  | ok read =>
    have hknown : ¬book.IssuerUnknown read := fun hunknown => hok.2 ⟨read, hparse, hunknown⟩
    rw [amount_of_known hparse hknown, Except.ok.injEq] at h
    exact ⟨read, rfl, h.symm⟩

end AccountBook

/-- What a text says about an amount depends on its slashes first and on its number then. In a text
of a scenario only a name of the book in the place of the issuer is replaced, by its address, and
such a text fails only if it is no amount or its issuer is unknown. An issued amount is read back
from its three parts. -/
theorem amounts_are_read :
    (∀ text result, Amount.parse text = result ↔ Amount.Reading text result) ∧
    (∀ (book : AccountBook) text, (∃ failure, book.amount text = .error failure) ↔
      (∃ e, Amount.parse text = .error e) ∨
        ∃ read, Amount.parse text = .ok read ∧ book.IssuerUnknown read) ∧
    (∀ (book : AccountBook) text amount, book.amount text = .ok amount →
      ∃ read, Amount.parse text = .ok read ∧ amount = book.named read) ∧
    ∀ (value : Float) (currency issuer : String), value.isFinite = true →
      currency ≠ "" → issuer ≠ "" → '/' ∉ currency.toList → '/' ∉ issuer.toList →
      Amount.parse (Decimal.textOf Decimal.plain value ++ "/" ++ currency ++ "/" ++ issuer) =
        .ok (.issued value currency issuer) := by
  refine ⟨fun text result => ⟨?_, Amount.Reading.parse_eq⟩, fun _ _ =>
    AccountBook.exists_amount_error_iff, fun _ _ _ => AccountBook.exists_read_of_amount, ?_⟩
  · rintro rfl
    exact .of_parse text
  · intro value currency issuer hfinite hcurrency hissuer hcurrencyFree hissuerFree
    exact (Amount.Reading.issued (Amount.parts_written hfinite hcurrencyFree hissuerFree) hcurrency
      hissuer (Amount.reads_textOf hfinite)).parse_eq

/-- An amount below zero that is owed by a name of the book. -/
theorem amount_of_alice :
    let book := AccountBook.empty.insert "alice" ⟨"rPEPPER7kfTD9w2To4CQk6UCfuHM9c6GDY", "sAlice"⟩
    let text := Decimal.textOf Decimal.plain (-0.5) ++ "/" ++ "USD" ++ "/" ++ "alice"
    (-0.5 : Float).isFinite = true ∧ "USD" ≠ "" ∧ "alice" ≠ "" ∧ '/' ∉ "USD".toList ∧
      '/' ∉ "alice".toList ∧ Amount.parse text = .ok (.issued (-0.5) "USD" "alice") ∧
      book.amount text = .ok (.issued (-0.5) "USD" "rPEPPER7kfTD9w2To4CQk6UCfuHM9c6GDY") := by
  intro book text
  obtain ⟨-, hfails, hnamed, hwritten⟩ := amounts_are_read
  have hfinite : (-0.5 : Float).isFinite = true := by decide +kernel
  have hparse := hwritten (-0.5) "USD" "alice" hfinite (by decide) (by decide) (by decide)
    (by decide)
  refine ⟨hfinite, by decide, by decide, by decide, by decide, hparse, ?_⟩
  cases hamount : book.amount text with
  | error failure =>
    rcases (hfails book text).1 ⟨failure, hamount⟩ with ⟨e, he⟩ | ⟨read, hread, hunknown⟩
    · rw [hparse] at he
      cases he
    · rw [hparse] at hread
      cases hread
      obtain ⟨value, currency, issuer, hissued, hnone, -⟩ := hunknown
      cases hissued
      exact absurd hnone (by decide)
  | ok amount =>
    obtain ⟨read, hread, rfl⟩ := hnamed book text amount hamount
    rw [hparse] at hread
    cases hread
    rfl

end LedgerBench
