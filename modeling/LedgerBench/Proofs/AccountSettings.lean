import LedgerBench.Proofs.OwnedLines
import LedgerBench.Proofs.TrustSet

/-! What an AccountSet does to the flags of its account. A flag is asked for by a bit of the word or
by the number of a setting, whichever; what is asked to be cleared is cleared last. -/

namespace LedgerBench

/-! ### Sets of flags -/

namespace RootFlags

variable {a b : RootFlags} {bit : Nat}

def Has (flags : RootFlags) (bit : Nat) : Prop :=
  flags.bits.toBitVec.getLsbD bit = true

theorem ext_has (h : ∀ bit, a.Has bit ↔ b.Has bit) : a = b := by
  obtain ⟨a⟩ := a
  obtain ⟨b⟩ := b
  refine congrArg RootFlags.mk (UInt32.toBitVec_inj.1 (BitVec.eq_of_getLsbD_eq fun bit _ => ?_))
  exact Bool.eq_iff_iff.2 (h bit)

theorem has_union : (a.union b).Has bit ↔ a.Has bit ∨ b.Has bit := by
  simp [Has, union]

theorem has_without : (a.without b).Has bit ↔ a.Has bit ∧ ¬b.Has bit := by
  by_cases hlt : bit < 32
  · simp [Has, without, hlt]
  · have hnone (flags : RootFlags) : ¬flags.Has bit := by
      rw [Has, BitVec.getLsbD_of_ge _ _ (by omega)]
      simp
    simp [hnone]

theorem has_none : ¬none.Has bit := by
  simp [Has, none]

theorem contains_iff : a.contains b = true ↔ ∀ bit, b.Has bit → a.Has bit := by
  rw [contains, beq_iff_eq, ← UInt32.toBitVec_inj]
  constructor
  · intro h bit hb
    rw [Has, ← h] at hb
    simp only [UInt32.toBitVec_and, BitVec.getLsbD_and, Bool.and_eq_true] at hb
    exact hb.1
  · intro h
    refine BitVec.eq_of_getLsbD_eq fun bit _ => ?_
    have hbit := h bit
    simp only [Has] at hbit
    cases hb : b.bits.toBitVec.getLsbD bit <;> simp_all

end RootFlags

/-- The place of a setting's bit among the flags of an account. -/
def AccountFlag.place : AccountFlag → Nat
  | .requireDest => 17
  | .requireAuth => 18
  | .disallowXdv => 19
  | .defaultDivvy => 23

theorem AccountFlag.has_rootFlag {flag : AccountFlag} {bit : Nat} :
    flag.rootFlag.Has bit ↔ bit = flag.place := by
  have hpower : flag.rootFlag.bits.toBitVec = BitVec.twoPow 32 flag.place := by
    cases flag <;> rfl
  have hlt : flag.place < 32 := by cases flag <;> decide
  rw [RootFlags.Has, hpower, BitVec.getLsbD_twoPow]
  simp [hlt, eq_comm]

theorem AccountFlag.place_inj {flag other : AccountFlag} (h : flag.place = other.place) :
    flag = other := by
  cases flag <;> cases other <;> first | rfl | cases h

theorem AccountFlag.contains_rootFlag {flag : AccountFlag} {flags : RootFlags} :
    flags.contains flag.rootFlag = true ↔ flags.Has flag.place := by
  simp [RootFlags.contains_iff, has_rootFlag]

/-! ### What is asked for -/

/-- The setting that a bit of the word of an AccountSet turns on. -/
def AccountSetFlag.sets? : AccountSetFlag → Option AccountFlag
  | .requireDestTag => some .requireDest
  | .requireAuth => some .requireAuth
  | .disallowXdv => some .disallowXdv
  | _ => none

/-- The setting that a bit of the word turns off. -/
def AccountSetFlag.clears? : AccountSetFlag → Option AccountFlag
  | .optionalDestTag => some .requireDest
  | .optionalAuth => some .requireAuth
  | .allowXdv => some .disallowXdv
  | _ => none

def AccountSetFlag.IsIn (flag : AccountSetFlag) (word : UInt32) : Prop :=
  (word &&& flag.bits != 0) = true

instance (flag : AccountSetFlag) (word : UInt32) : Decidable (flag.IsIn word) :=
  inferInstanceAs (Decidable (_ = _))

namespace Ledger

/-- Whether a setting is asked for by its number or by a bit of the word that turns it. -/
def AsksFor (turns : AccountSetFlag → Option AccountFlag) (word : UInt32)
    (setting : Option AccountFlag) (flag : AccountFlag) : Prop :=
  setting = some flag ∨ ∃ bit, turns bit = some flag ∧ bit.IsIn word

def AsksToSet : UInt32 → Option AccountFlag → AccountFlag → Prop :=
  AsksFor AccountSetFlag.sets?

def AsksToClear : UInt32 → Option AccountFlag → AccountFlag → Prop :=
  AsksFor AccountSetFlag.clears?

variable {word : UInt32} {set clear : Option AccountFlag} {flag : AccountFlag}

theorem has_flagAsked {bit : AccountSetFlag} {flag : RootFlags} {place : Nat} :
    (flagAsked word bit flag).Has place ↔ bit.IsIn word ∧ flag.Has place := by
  by_cases hin : bit.IsIn word
  · have hflag : flagAsked word bit flag = flag := if_pos hin
    simp [hflag, hin]
  · have hflag : flagAsked word bit flag = .none := if_neg hin
    simp [hflag, hin, RootFlags.has_none]

theorem has_flagsAsked {turns : AccountSetFlag → Option AccountFlag} {tag auth xdv : AccountSetFlag}
    (hturns : ∀ bit flag, turns bit = some flag ↔ bit = tag ∧ flag = .requireDest ∨
      bit = auth ∧ flag = .requireAuth ∨ bit = xdv ∧ flag = .disallowXdv)
    (word : UInt32) (setting : Option AccountFlag) (place : Nat) :
    (flagsAsked word tag auth xdv setting).Has place ↔
      ∃ flag, AsksFor turns word setting flag ∧ flag.rootFlag.Has place := by
  have hsetting : ((setting.map AccountFlag.rootFlag).getD .none).Has place ↔
      ∃ flag, setting = some flag ∧ flag.rootFlag.Has place := by
    cases setting <;> simp [RootFlags.has_none]
  rw [flagsAsked, RootFlags.has_union, RootFlags.has_union, RootFlags.has_union, has_flagAsked,
    has_flagAsked, has_flagAsked, hsetting]
  constructor
  · rintro (((⟨hin, hroot⟩ | ⟨hin, hroot⟩) | ⟨hin, hroot⟩) | ⟨flag, hflag, hroot⟩)
    · exact ⟨.requireDest, .inr ⟨tag, (hturns _ _).2 (by simp), hin⟩, hroot⟩
    · exact ⟨.requireAuth, .inr ⟨auth, (hturns _ _).2 (by simp), hin⟩, hroot⟩
    · exact ⟨.disallowXdv, .inr ⟨xdv, (hturns _ _).2 (by simp), hin⟩, hroot⟩
    · exact ⟨flag, .inl hflag, hroot⟩
  · rintro ⟨flag, hflag | ⟨bit, hturn, hin⟩, hroot⟩
    · exact .inr ⟨flag, hflag, hroot⟩
    · rcases (hturns bit flag).1 hturn with ⟨rfl, rfl⟩ | ⟨rfl, rfl⟩ | ⟨rfl, rfl⟩
      · exact .inl (.inl (.inl ⟨hin, hroot⟩))
      · exact .inl (.inl (.inr ⟨hin, hroot⟩))
      · exact .inl (.inr ⟨hin, hroot⟩)

theorem has_flagsToSet {place : Nat} : (flagsToSet word set).Has place ↔
    ∃ flag, AsksToSet word set flag ∧ flag.rootFlag.Has place :=
  has_flagsAsked (by intro bit flag; cases bit <;> cases flag <;> simp [AccountSetFlag.sets?]) ..

theorem has_flagsToClear {place : Nat} : (flagsToClear word clear).Has place ↔
    ∃ flag, AsksToClear word clear flag ∧ flag.rootFlag.Has place :=
  has_flagsAsked (by intro bit flag; cases bit <;> cases flag <;> simp [AccountSetFlag.clears?]) ..

theorem contains_flagsToSet (flag : AccountFlag) :
    (flagsToSet word set).contains flag.rootFlag = true ↔ AsksToSet word set flag := by
  rw [AccountFlag.contains_rootFlag, has_flagsToSet]
  constructor
  · rintro ⟨other, hother, hplace⟩
    rwa [AccountFlag.place_inj (AccountFlag.has_rootFlag.1 hplace)]
  · exact fun h => ⟨flag, h, AccountFlag.has_rootFlag.2 rfl⟩

/-! ### Accounts that own lines -/

/-- Whether the account has a limit or NoDivvy on its own side of some line. -/
def OwnsLine (ledger : Ledger) (a : String) : Prop :=
  ∃ key line, ledger.lines.get? key = some line ∧ (key.low = a ∨ key.high = a) ∧
    ((line.side key a).limit != 0 ∨ (line.side key a).noDivvy = true)

variable {ledger : Ledger} {a : String}

theorem owns_iff {key : LineKey} {line : Line} : owns a (key, line) = true ↔
    (key.low = a ∨ key.high = a) ∧
      ((line.side key a).limit != 0 ∨ (line.side key a).noDivvy = true) := by
  simp [owns, viewFrom, LineView.isOwned]

theorem ownerCount_pos_iff : 0 < ledger.ownerCount a ↔ ledger.OwnsLine a := by
  rw [ownerCount_eq, List.countP_pos_iff]
  constructor
  · rintro ⟨⟨key, line⟩, hmem, howns⟩
    exact ⟨key, line, Register.get?_eq_some_iff.2 hmem, owns_iff.1 howns⟩
  · rintro ⟨key, line, hline, howns⟩
    exact ⟨(key, line), Register.get?_eq_some_iff.1 hline, owns_iff.2 howns⟩

/-! ### The law -/

/-- The flags after an AccountSet, bit by bit: those there were and those asked for, without those
that were asked to go. No other bit changes. -/
def Settles (word : UInt32) (set clear : Option AccountFlag) (before after : RootFlags) : Prop :=
  ∀ place, after.Has place ↔
    (before.Has place ∨ ∃ flag, AsksToSet word set flag ∧ flag.rootFlag.Has place) ∧
      ¬∃ flag, AsksToClear word clear flag ∧ flag.rootFlag.Has place

theorem settles_flags (word : UInt32) (set clear : Option AccountFlag) (flags : RootFlags) :
    Settles word set clear flags
      ((flags.union (flagsToSet word set)).without (flagsToClear word clear)) := by
  intro place
  rw [RootFlags.has_without, RootFlags.has_union, has_flagsToSet, has_flagsToClear]

/-- RequireAuth is not given to an account that owns lines. -/
def Refuses (ledger : Ledger) (a : String) (word : UInt32) (set : Option AccountFlag) : Prop :=
  AsksToSet word set .requireAuth ∧ ledger.OwnsLine a

theorem accountSet_refused {root : Account} (ha : ledger.account? a = some root)
    (hrefuses : ledger.Refuses a word set) (clear : Option AccountFlag) :
    ledger.apply (.accountSet a word set clear) = (.owners, ledger.bumpSequence a) := by
  have hknown : ledger.sketch.flags a = some root.flags := congrArg (Option.map Account.flags) ha
  exact apply_accountSet_owners hknown (ownerCount_pos_iff.2 hrefuses.2)
    ((contains_flagsToSet .requireAuth).2 hrefuses.1) clear

theorem accountSet_done {root : Account} (ha : ledger.account? a = some root)
    (hfree : ¬ledger.Refuses a word set) (clear : Option AccountFlag) :
    let out := ledger.apply (.accountSet a word set clear)
    out.1 = .success ∧ ∃ flags, Settles word set clear root.flags flags ∧
      ledger.SameButFlags out.2 a flags := by
  intro out
  have hauth (hasks : (flagsToSet word set).contains .requireAuth = true) :
      ledger.ownerCount a = 0 := by
    by_contra hne
    exact hfree ⟨(contains_flagsToSet .requireAuth).1 hasks,
      ownerCount_pos_iff.1 (Nat.pos_of_ne_zero hne)⟩
  obtain ⟨hsuccess, hsame⟩ := apply_accountSet ha hauth clear
  exact ⟨hsuccess, _, settles_flags word set clear root.flags, hsame⟩

/-- A request that sets one flag and nothing else, and one that clears it and nothing else. -/
def SetsOnly (flag : AccountFlag) (word : UInt32) (set clear : Option AccountFlag) : Prop :=
  (∀ other, AsksToSet word set other ↔ other = flag) ∧ ∀ other, ¬AsksToClear word clear other

def ClearsOnly (flag : AccountFlag) (word : UInt32) (set clear : Option AccountFlag) : Prop :=
  (∀ other, ¬AsksToSet word set other) ∧ ∀ other, AsksToClear word clear other ↔ other = flag

theorem SetsOnly.without_eq {before after : RootFlags} (hset : SetsOnly flag word set clear)
    (h : Settles word set clear before after) :
    after.without flag.rootFlag = before.without flag.rootFlag := by
  refine RootFlags.ext_has fun place => ?_
  rw [RootFlags.has_without, RootFlags.has_without, h place]
  simp only [hset.1, hset.2, false_and, exists_false, not_false_eq_true, and_true, exists_eq_left]
  tauto

theorem ClearsOnly.settles_eq {before after : RootFlags} (hclear : ClearsOnly flag word set clear)
    (h : Settles word set clear before after) : after = before.without flag.rootFlag := by
  refine RootFlags.ext_has fun place => ?_
  rw [h place, RootFlags.has_without]
  simp only [hclear.1, hclear.2, false_and, exists_false, or_false, exists_eq_left]

theorem ClearsOnly.not_refuses (hclear : ClearsOnly flag word set clear) :
    ¬ledger.Refuses a word set :=
  fun hrefuses => hclear.1 _ hrefuses.1

/-- An AccountSet of an account is refused exactly if it asks for RequireAuth, whatever it asks to
clear, and the account owns lines. Otherwise the account has the flags that the request settles on.
Nothing else changes but a sequence number. What is set and then cleared is gone afterwards, also
where it was refused. -/
theorem accountSet_law {root : Account} (ha : ledger.account? a = some root) (word : UInt32)
    (set clear : Option AccountFlag) :
    let out := ledger.apply (.accountSet a word set clear)
    (out.1 = .owners ↔ AsksToSet word set .requireAuth ∧ ledger.OwnsLine a) ∧
      (out.1 = .owners → out.2.lines = ledger.lines ∧ ledger.SameButSequence out.2 a) ∧
      (out.1 ≠ .owners → out.1 = .success ∧ ∃ flags, Settles word set clear root.flags flags ∧
        ledger.SameButFlags out.2 a flags) ∧
      ∀ flag word' set' clear', SetsOnly flag word set clear → ClearsOnly flag word' set' clear' →
        ∃ after, (out.2.apply (.accountSet a word' set' clear')).2.account? a = some after ∧
          after.flags = root.flags.without flag.rootFlag := by
  intro out
  by_cases hrefuses : ledger.Refuses a word set
  · have hout : out = (.owners, ledger.bumpSequence a) := accountSet_refused ha hrefuses clear
    have hsame : ledger.SameButSequence out.2 a := by
      rw [hout]
      exact account?_bumpSequence ledger a
    refine ⟨iff_of_true (by rw [hout]) hrefuses, fun _ => ⟨by rw [hout]; rfl, hsame⟩,
      fun hne => absurd (by rw [hout]) hne, fun flag word' set' clear' hset hclear => ?_⟩
    have ha' : out.2.account? a = some { root with sequence := root.sequence + 1 } := by
      rw [hsame, ha, Option.map_some, if_pos rfl]
    obtain ⟨-, flags, hsettles, hlast⟩ := accountSet_done ha' (hclear.not_refuses) clear'
    exact ⟨_, hlast.account? ha', hclear.settles_eq hsettles⟩
  · obtain ⟨hsuccess, flags, hsettles, hsame⟩ := accountSet_done ha hrefuses clear
    replace hsuccess : out.1 = .success := hsuccess
    have hne : out.1 ≠ .owners := by
      rw [hsuccess]
      exact nofun
    refine ⟨iff_of_false hne hrefuses, fun h => absurd h hne,
      fun _ => ⟨hsuccess, flags, hsettles, hsame⟩, fun flag word' set' clear' hset hclear => ?_⟩
    have ha' := hsame.account? ha
    obtain ⟨-, flags', hsettles', hlast⟩ := accountSet_done ha' (hclear.not_refuses) clear'
    exact ⟨_, hlast.account? ha', (hclear.settles_eq hsettles').trans (hset.without_eq hsettles)⟩

theorem setsOnly_bit {bit : AccountSetFlag} (h : bit.sets? = some flag) :
    SetsOnly flag bit.bits none none := by
  have hin (other : AccountSetFlag) : other.IsIn bit.bits ↔ other = bit := by
    cases bit <;> cases other <;> decide
  have hclears : bit.clears? = none := by cases bit <;> first | rfl | cases h
  constructor
  · intro other
    simp [AsksToSet, AsksFor, hin, h, eq_comm]
  · intro other
    simp [AsksToClear, AsksFor, hin, hclears]

theorem clearsOnly_setting (flag : AccountFlag) : ClearsOnly flag 0 none (some flag) := by
  have hin (bit : AccountSetFlag) : ¬bit.IsIn 0 := by cases bit <;> decide
  constructor
  · intro other
    simp [AsksToSet, AsksFor, hin]
  · intro other
    simp [AsksToClear, AsksFor, hin, eq_comm]

/-- An account with a line asks for RequireAuth and against it at once, and is refused. One without
lines gets what it asks for, and is rid of it again. -/
theorem twoLines_accountSet :
    let word := AccountSetFlag.requireAuth.bits ||| AccountSetFlag.optionalAuth.bits
    let xdv := AccountSetFlag.disallowXdv.bits
    let refused := twoLines.apply (.accountSet "rBob" word none (some .requireAuth))
    let set := twoLines.apply (.accountSet "rRoot" xdv none none)
    (∃ root, twoLines.account? "rBob" = some root) ∧ twoLines.OwnsLine "rBob" ∧
      refused.1 = .owners ∧ twoLines.SameButSequence refused.2 "rBob" ∧ set.1 = .success ∧
      ∃ root after, twoLines.account? "rRoot" = some root ∧
        (set.2.apply (.accountSet "rRoot" 0 none (some .disallowXdv))).2.account? "rRoot" =
          some after ∧
        after.flags = root.flags.without .disallowXdv := by
  intro word xdv refused set
  have hknown (address : String) (h : (twoLines.account? address).isSome = true) :
      ∃ root, twoLines.account? address = some root :=
    Option.isSome_iff_exists.1 h
  obtain ⟨bob, hbob⟩ := hknown "rBob" (by decide +kernel)
  obtain ⟨root, hroot⟩ := hknown "rRoot" (by decide +kernel)
  have howns : twoLines.OwnsLine "rBob" :=
    ⟨.between "rBob" "rAlice" "USD", ⟨0, ⟨0, true⟩, ⟨100, false⟩⟩, by decide +kernel,
      by decide, .inl (by decide +kernel)⟩
  have hasks : AsksToSet word none .requireAuth := .inr ⟨.requireAuth, rfl, by decide⟩
  obtain ⟨howners, hsame, -⟩ := accountSet_law hbob word none (some .requireAuth)
  have hrefused : refused.1 = .owners := howners.2 ⟨hasks, howns⟩
  obtain ⟨-, -, hdone, hgone⟩ := accountSet_law hroot xdv none none
  obtain ⟨after, hafter, hflags⟩ := hgone .disallowXdv 0 none (some .disallowXdv)
    (setsOnly_bit rfl) (clearsOnly_setting _)
  exact ⟨⟨bob, hbob⟩, howns, hrefused, (hsame hrefused).2, (hdone (by decide +kernel)).1, root,
    after, hroot, hafter, hflags⟩

end Ledger
end LedgerBench
