import Mathlib.Data.List.Induction
import Mathlib.Data.List.Pairwise
import MultiWallet.Asset.Index
import MultiWallet.Catalog.Bundled

/-!
What becomes of an index of the earlier form. A key counts in lower case: it is one of
six names of coins, or the address of a token behind one of two leads, or it stands for
nothing. As long as no two tokens of the catalog share an address, a key stands for one
currency at most, in whatever order the catalog is gone through; and the migrated index
lists just the currencies that keys stand for, each where it comes first.
-/

namespace MultiWallet

namespace Text

/-! ### Leads -/

theorem startsWith_iff {text lead : String} :
    startsWith text lead = true ↔ ∃ rest, text = lead ++ rest := by
  rw [startsWith, List.isPrefixOf_iff_prefix]
  constructor
  · rintro ⟨rest, split⟩
    refine ⟨String.ofList rest, String.toList_inj.1 ?_⟩
    rw [String.toList_append, String.toList_ofList, split]
  · rintro ⟨rest, rfl⟩
    rw [String.toList_append]
    exact List.prefix_append _ _

theorem drop_append (lead rest : String) :
    String.ofList ((lead ++ rest).toList.drop lead.length) = rest := by
  rw [String.toList_append, ← String.length_toList, List.drop_left, String.ofList_toList]

/-! ### ASCII texts -/

/-- A text of ASCII characters only. -/
def IsAscii (text : String) : Prop := ∀ c ∈ text.toList, c.toNat < 128

instance (text : String) : Decidable (IsAscii text) :=
  List.decidableBAll (fun c : Char => c.toNat < 128) text.toList

theorem sameIgnoringAsciiCase_iff {left right : String} :
    sameIgnoringAsciiCase left right = true ↔ foldAscii left = foldAscii right :=
  beq_iff_eq

theorem foldAscii_append (left right : String) :
    foldAscii (left ++ right) = foldAscii left ++ foldAscii right := by
  rw [foldAscii, String.toList_append, List.map_append, foldAscii, foldAscii]

/-- A capital letter is shifted, and nothing else changes. -/
theorem toLower_cases (c : Char) :
    (65 ≤ c.toNat ∧ c.toNat ≤ 90 ∧ c.toLower.toNat = c.toNat + 32) ∨
      ¬(65 ≤ c.toNat ∧ c.toNat ≤ 90) ∧ c.toLower = c := by
  have isCapital : (c.val ≥ 'A'.val ∧ c.val ≤ 'Z'.val) ↔ 65 ≤ c.toNat ∧ c.toNat ≤ 90 := by
    rw [ge_iff_le, UInt32.le_iff_toNat_le, UInt32.le_iff_toNat_le]
    rfl
  by_cases capital : c.val ≥ 'A'.val ∧ c.val ≤ 'Z'.val
  · obtain ⟨first, last⟩ := isCapital.1 capital
    refine .inl ⟨first, last, ?_⟩
    have shifted : c.toLower.toNat = (c.val + ('a'.val - 'A'.val)).toNat :=
      congrArg Char.toNat (dif_pos capital)
    have bound : c.val.toNat ≤ 90 := last
    rw [shifted, UInt32.toNat_add, show ('a'.val - 'A'.val).toNat = 32 from rfl]
    change (c.val.toNat + 32) % 2 ^ 32 = c.val.toNat + 32
    omega
  · exact .inr ⟨mt isCapital.2 capital, dif_neg capital⟩

theorem toLower_toLower (c : Char) : c.toLower.toLower = c.toLower := by
  rcases toLower_cases c with ⟨first, -, shifted⟩ | ⟨-, same⟩
  · rcases toLower_cases c.toLower with ⟨-, last, -⟩ | ⟨-, same⟩
    · omega
    · exact same
  · rw [same, same]

theorem toNat_toLower_lt_iff (c : Char) : c.toLower.toNat < 128 ↔ c.toNat < 128 := by
  rcases toLower_cases c with ⟨-, last, shifted⟩ | ⟨-, same⟩
  · omega
  · rw [same]

/-- Folding is done once and for all. -/
theorem foldAscii_foldAscii (text : String) :
    foldAscii (String.ofList (foldAscii text)) = foldAscii text := by
  rw [foldAscii, String.toList_ofList, foldAscii, List.map_map]
  exact List.map_congr_left fun c _ => toLower_toLower c

theorem IsAscii.of_same {left right : String} (ascii : IsAscii right)
    (same : foldAscii left = foldAscii right) : IsAscii left := by
  intro c mem
  have folded : c.toLower ∈ foldAscii right := same ▸ List.mem_map.2 ⟨c, mem, rfl⟩
  obtain ⟨other, mem', lower⟩ := List.mem_map.1 folded
  rw [← toNat_toLower_lt_iff, ← lower, toNat_toLower_lt_iff]
  exact ascii other mem'

theorem IsAscii.append {left right : String} (h : IsAscii left) (h' : IsAscii right) :
    IsAscii (left ++ right) := by
  intro c mem
  rw [String.toList_append] at mem
  exact (List.mem_append.1 mem).elim (h c) (h' c)

theorem lowerAfter_of_ascii {before text : List Char} (ascii : ∀ c ∈ text, c.toNat < 128) :
    lowerAfter before text = text.map Char.toLower := by
  induction text generalizing before with
  | nil => rfl
  | cons c rest ih =>
      obtain ⟨here, others⟩ := List.forall_mem_cons.1 ascii
      have other : (c == capitalSigma) = false := by
        rw [beq_eq_false_iff_ne]
        rintro rfl
        exact absurd here (by decide)
      rw [lowerAfter, ih others, lowerOf, if_pos here, other]
      rfl

/-- In an ASCII text only the ASCII letters have a case. -/
theorem toList_lower {text : String} (ascii : IsAscii text) :
    (lower text).toList = foldAscii text := by
  rw [lower, String.toList_ofList, lowerAfter_of_ascii ascii, foldAscii]

end Text

/-! ### Catalogs -/

/-- Two entries have no address in common, in whatever case. -/
def CatalogEntry.Apart (entry other : CatalogEntry) : Prop :=
  ∀ own ∈ entry.tokenAddress, ∀ address ∈ other.tokenAddress,
    Text.sameIgnoringAsciiCase own address = false

instance (entry other : CatalogEntry) : Decidable (entry.Apart other) :=
  inferInstanceAs (Decidable (∀ own ∈ entry.tokenAddress, ∀ address ∈ other.tokenAddress, _))

instance : Std.Symm CatalogEntry.Apart where
  symm entry other apart own mem address mem' := by
    rw [Text.sameIgnoringAsciiCase, Bool.beq_comm]
    exact apart address mem' own mem

namespace Catalog

variable {catalog : Catalog}

theorem mem_toList {entry : CatalogEntry} :
    entry ∈ catalog.toList ↔ catalog.get? entry.uid = some entry := by
  rw [toList, List.mem_map]
  constructor
  · rintro ⟨⟨uid, other⟩, mem, rfl⟩
    have found := Std.ExtTreeMap.mem_toList_iff_getElem?_eq_some.1 mem
    rwa [get?, catalog.keyed uid other found]
  · intro found
    exact ⟨(entry.uid, entry), Std.ExtTreeMap.mem_toList_iff_getElem?_eq_some.2 found, rfl⟩

/-- No two entries have the same address, in whatever case. -/
def AddressesApart (catalog : Catalog) : Prop := catalog.toList.Pairwise CatalogEntry.Apart

instance (catalog : Catalog) : Decidable catalog.AddressesApart :=
  inferInstanceAs (Decidable (List.Pairwise _ _))

theorem hasAddress_iff {entry : CatalogEntry} {address : String} :
    entry.hasAddress address = true ↔
      ∃ own, entry.tokenAddress = some own ∧ Text.sameIgnoringAsciiCase own address = true := by
  rw [CatalogEntry.hasAddress, Option.any_eq_true]

/-- An address is that of one entry at most. -/
theorem AddressesApart.eq (apart : catalog.AddressesApart) {entry other : CatalogEntry}
    (mem : entry ∈ catalog.toList) (mem' : other ∈ catalog.toList) {address : String}
    (has : entry.hasAddress address = true) (has' : other.hasAddress address = true) :
    entry = other := by
  obtain ⟨own, found, same⟩ := hasAddress_iff.1 has
  obtain ⟨own', found', same'⟩ := hasAddress_iff.1 has'
  by_contra differ
  have distinct := apart.forall mem mem' differ own found own' found'
  rw [Text.sameIgnoringAsciiCase_iff] at same same'
  rw [Text.sameIgnoringAsciiCase_iff.2 (same.trans same'.symm)] at distinct
  cases distinct

/-- An entry is found by its address, in whatever order the entries are gone through. -/
theorem AddressesApart.find?_eq_some_iff (apart : catalog.AddressesApart)
    {listing : List CatalogEntry} (order : listing.Perm catalog.toList) {address : String}
    {entry : CatalogEntry} :
    listing.find? (·.hasAddress address) = some entry ↔
      catalog.get? entry.uid = some entry ∧ entry.hasAddress address = true := by
  rw [← mem_toList]
  constructor
  · intro found
    have has := List.find?_some found
    exact ⟨order.mem_iff.1 (List.mem_of_find?_eq_some found), has⟩
  · rintro ⟨mem, has⟩
    cases found : listing.find? (·.hasAddress address) with
    | none => exact absurd has (List.find?_eq_none.1 found entry (order.mem_iff.2 mem))
    | some other =>
        have mem' := order.mem_iff.1 (List.mem_of_find?_eq_some found)
        have has' := List.find?_some found
        rw [apart.eq mem mem' has has']

end Catalog

namespace LegacyIndex

/-! ### What a key stands for -/

/-- The names of coins. -/
def coinNames : List (String × NativeCurrency) :=
  [("btc", .btc), ("bitcoin", .btc), ("bch", .bch), ("bitcoincash", .bch), ("eth", .eth),
    ("ethereum", .eth)]

/-- What a key in lower case stands for: a name for the coin, if the catalog has it, and
an address behind a lead for the token of that address. -/
inductive StandsFor (catalog : Catalog) (networkClass : NetworkClass) : String → CurrencyId → Prop
  | coin {name : String} {currency : NativeCurrency} : (name, currency) ∈ coinNames →
      catalog.contains (currency.uid networkClass) = true →
      StandsFor catalog networkClass name (currency.uid networkClass)
  | token {lead address own : String} {entry : CatalogEntry} : lead = "erc20:" ∨ lead = "erc20_" →
      catalog.get? entry.uid = some entry → entry.tokenAddress = some own →
      Text.sameIgnoringAsciiCase own address = true →
      StandsFor catalog networkClass (lead ++ address) entry.uid

/-- The id that a key stands for, if the entries are gone through in some order. -/
def resolveThrough? (listing : List CatalogEntry) (catalog : Catalog)
    (networkClass : NetworkClass) (key : String) : Option CurrencyId :=
  let key := Text.lower key
  match tokenAddress? key with
  | some address => (listing.find? (·.hasAddress address)).map (·.uid)
  | none => ((chain? key).map (·.uid networkClass)).filter catalog.contains

theorem chain?_eq_some_iff {key : String} {currency : NativeCurrency} :
    chain? key = some currency ↔ (key, currency) ∈ coinNames := by
  simp only [chain?, coinNames, List.mem_cons, Prod.mk.injEq, List.not_mem_nil, or_false]
  grind

/-- A lead is taken off a key that begins with it. -/
theorem strip_eq_some_iff {key lead address : String} :
    (if Text.startsWith key lead then some (String.ofList (key.toList.drop lead.length))
      else none) = some address ↔ key = lead ++ address := by
  split
  · rename_i begins
    obtain ⟨rest, rfl⟩ := Text.startsWith_iff.1 begins
    rw [Text.drop_append, Option.some_inj]
    constructor
    · rintro rfl
      rfl
    · intro same
      rw [← Text.drop_append lead rest, same, Text.drop_append]
  · rename_i other
    refine iff_of_false nofun ?_
    rintro rfl
    exact other (Text.startsWith_iff.2 ⟨address, rfl⟩)

theorem tokenAddress?_eq_some_iff {key address : String} :
    tokenAddress? key = some address ↔
      ∃ lead, (lead = "erc20:" ∨ lead = "erc20_") ∧ key = lead ++ address := by
  rw [tokenAddress?]
  constructor
  · intro found
    obtain ⟨lead, mem, stripped⟩ := List.exists_of_findSome?_eq_some found
    exact ⟨lead, by simpa [tokenLeads] using mem, strip_eq_some_iff.1 stripped⟩
  · rintro ⟨lead, isLead, same⟩
    have stripped := strip_eq_some_iff.2 same
    rcases isLead with rfl | rfl
    · rw [tokenLeads, List.findSome?_cons, stripped]
    · -- The other lead ends in another character.
      have other : Text.startsWith key "erc20:" = false := by
        rw [same, Text.startsWith, String.toList_append]
        rfl
      rw [tokenLeads, List.findSome?_cons, other, List.findSome?_cons, stripped]
      rfl

/-- A name of a coin is no address behind a lead. -/
theorem tokenAddress?_of_coin {name : String} {currency : NativeCurrency}
    (named : (name, currency) ∈ coinNames) : tokenAddress? name = none := by
  have each : ∀ entry ∈ coinNames, tokenAddress? entry.1 = none := by decide
  exact each _ named

theorem resolveThrough?_eq_some_iff {catalog : Catalog} (apart : catalog.AddressesApart)
    {listing : List CatalogEntry} (order : listing.Perm catalog.toList)
    (networkClass : NetworkClass) {key : String} {uid : CurrencyId} :
    resolveThrough? listing catalog networkClass key = some uid ↔
      StandsFor catalog networkClass (Text.lower key) uid := by
  rw [resolveThrough?]
  generalize Text.lower key = key
  constructor
  · intro resolved
    cases stripped : tokenAddress? key with
    | some address =>
        rw [stripped] at resolved
        obtain ⟨entry, found, rfl⟩ := Option.map_eq_some_iff.1 resolved
        obtain ⟨lead, isLead, rfl⟩ := tokenAddress?_eq_some_iff.1 stripped
        obtain ⟨listed, has⟩ := (apart.find?_eq_some_iff order).1 found
        obtain ⟨own, hasOwn, same⟩ := Catalog.hasAddress_iff.1 has
        exact .token isLead listed hasOwn same
    | none =>
        rw [stripped] at resolved
        obtain ⟨named, listed⟩ := Option.filter_eq_some_iff.1 resolved
        obtain ⟨currency, isCoin, rfl⟩ := Option.map_eq_some_iff.1 named
        exact .coin (chain?_eq_some_iff.1 isCoin) listed
  · rintro (⟨named, listed⟩ | ⟨isLead, listed, hasOwn, same⟩)
    · rw [tokenAddress?_of_coin named, chain?_eq_some_iff.2 named]
      exact Option.filter_eq_some_iff.2 ⟨rfl, listed⟩
    · rw [tokenAddress?_eq_some_iff.2 ⟨_, isLead, rfl⟩]
      have found := (apart.find?_eq_some_iff order).2
        ⟨listed, Catalog.hasAddress_iff.2 ⟨_, hasOwn, same⟩⟩
      exact Option.map_eq_some_iff.2 ⟨_, found, rfl⟩

/-- Every spelling of a lead and an address in capital and small letters stands for the
token of that address. -/
theorem standsFor_of_same {catalog : Catalog} (networkClass : NetworkClass)
    {key lead own : String} {entry : CatalogEntry} (isLead : lead = "erc20:" ∨ lead = "erc20_")
    (listed : catalog.get? entry.uid = some entry) (hasOwn : entry.tokenAddress = some own)
    (ascii : Text.IsAscii own) (same : Text.sameIgnoringAsciiCase key (lead ++ own) = true) :
    StandsFor catalog networkClass (Text.lower key) entry.uid := by
  rw [Text.sameIgnoringAsciiCase_iff] at same
  have asciiLead : Text.IsAscii lead := by rcases isLead with rfl | rfl <;> decide
  have small : Text.foldAscii lead = lead.toList := by rcases isLead with rfl | rfl <;> decide
  have lower : Text.lower key = lead ++ String.ofList (Text.foldAscii own) := by
    refine String.toList_inj.1 ?_
    rw [Text.toList_lower ((asciiLead.append ascii).of_same same), same, Text.foldAscii_append,
      small, String.toList_append, String.toList_ofList]
  rw [lower]
  refine .token isLead listed hasOwn (Text.sameIgnoringAsciiCase_iff.2 ?_)
  rw [Text.foldAscii_foldAscii]

/-! ### The migrated list -/

/-- Adds what a key resolves to, unless it is in the list. -/
def addThrough (resolve : String → Option CurrencyId) (ids : List CurrencyId) (key : String) :
    List CurrencyId :=
  match resolve key with
  | some uid => if ids.contains uid then ids else ids ++ [uid]
  | none => ids

/-- The index in the present form, if the entries of the catalog are gone through in some
order. -/
def migrateThrough (listing : List CatalogEntry) (index : LegacyIndex) (catalog : Catalog)
    (networkClass : NetworkClass) : AssetIndex :=
  .ofIds (index.enabled.foldl (addThrough (resolveThrough? listing catalog networkClass)) [])

theorem migrate_eq (index : LegacyIndex) (catalog : Catalog) (networkClass : NetworkClass) :
    index.migrate catalog networkClass =
      index.migrateThrough catalog.toList catalog networkClass := rfl

theorem eraseDups_concat (ids : List CurrencyId) (uid : CurrencyId) :
    (ids ++ [uid]).eraseDups =
      if ids.eraseDups.contains uid then ids.eraseDups else ids.eraseDups ++ [uid] := by
  rw [List.eraseDups_append, List.removeAll]
  by_cases mem : uid ∈ ids <;> simp [mem, List.eraseDups_cons]

theorem nodup_eraseDups (ids : List CurrencyId) : ids.eraseDups.Nodup := by
  induction ids using List.reverseRecOn with
  | nil => exact List.nodup_nil
  | append_singleton ids uid ih =>
      rw [eraseDups_concat]
      split
      · exact ih
      · rename_i isNew
        rw [List.contains_iff_mem] at isNew
        have apart : ∀ other ∈ ids.eraseDups, ∀ last ∈ [uid], other ≠ last := by
          rintro other mem last isLast rfl
          exact isNew (List.mem_singleton.1 isLast ▸ mem)
        exact List.nodup_append.2 ⟨ih, List.pairwise_singleton _ uid, apart⟩

/-- Of what keys resolve to, the first occurrences are gathered. -/
theorem foldl_addThrough (resolve : String → Option CurrencyId) (keys : List String) :
    keys.foldl (addThrough resolve) [] = (keys.filterMap resolve).eraseDups := by
  induction keys using List.reverseRecOn with
  | nil => rfl
  | append_singleton keys key ih =>
      rw [List.foldl_append, ih, List.filterMap_append, List.foldl_cons, List.foldl_nil, addThrough]
      cases resolved : resolve key with
      | none => rw [List.filterMap_cons_none resolved, List.filterMap_nil, List.append_nil]
      | some uid => rw [List.filterMap_cons_some resolved, List.filterMap_nil, eraseDups_concat]

theorem StandsFor.contains {catalog : Catalog} {networkClass : NetworkClass} {key : String}
    {uid : CurrencyId} (h : StandsFor catalog networkClass key uid) :
    catalog.contains uid = true := by
  cases h with
  | coin _ listed => exact listed
  | token _ listed _ _ => rw [Catalog.contains, listed, Option.isSome_some]

end LegacyIndex

/-- A migrated index loses nothing that its keys stand for: the ids are what the keys stand
for, in their order and each where it comes first, so that all are in the catalog and none is
listed twice. A token is found by every spelling of its address in capital and small letters,
and the order in which the entries of the catalog are gone through does not matter. -/
theorem migrated_index_loses_nothing {catalog : Catalog} (apart : catalog.AddressesApart)
    (ascii : ∀ entry ∈ catalog.toList, ∀ own ∈ entry.tokenAddress, Text.IsAscii own)
    (networkClass : NetworkClass) (index : LegacyIndex) :
    let ids := (index.migrate catalog networkClass).enabledIds
    let resolve := LegacyIndex.resolve? catalog networkClass
    (∀ key uid, resolve key = some uid ↔
        LegacyIndex.StandsFor catalog networkClass (Text.lower key) uid) ∧
      ids = (index.enabled.filterMap resolve).eraseDups ∧
      ids.Nodup ∧
      (∀ uid ∈ ids, catalog.contains uid = true) ∧
      (∀ key lead own, lead = "erc20:" ∨ lead = "erc20_" →
        Text.sameIgnoringAsciiCase key (lead ++ own) = true →
          ∀ entry ∈ catalog.toList, entry.tokenAddress = some own →
            resolve key = some entry.uid) ∧
      ∀ listing, listing.Perm catalog.toList →
        index.migrateThrough listing catalog networkClass = index.migrate catalog networkClass := by
  intro ids resolve
  have through {listing : List CatalogEntry} (order : listing.Perm catalog.toList) :
      LegacyIndex.resolveThrough? listing catalog networkClass = resolve := by
    refine funext fun key => Option.ext fun uid => ?_
    exact (LegacyIndex.resolveThrough?_eq_some_iff apart order networkClass).trans
      (LegacyIndex.resolveThrough?_eq_some_iff apart (.refl _) networkClass).symm
  have resolves (key : String) (uid : CurrencyId) : resolve key = some uid ↔
      LegacyIndex.StandsFor catalog networkClass (Text.lower key) uid :=
    LegacyIndex.resolveThrough?_eq_some_iff apart (.refl _) networkClass
  have gathered : ids = (index.enabled.filterMap resolve).eraseDups :=
    LegacyIndex.foldl_addThrough resolve index.enabled
  refine ⟨resolves, gathered, ?_, ?_, ?_, fun listing order => ?_⟩
  · rw [gathered]
    exact LegacyIndex.nodup_eraseDups _
  · intro uid mem
    rw [gathered, List.mem_eraseDups, List.mem_filterMap] at mem
    obtain ⟨key, -, resolved⟩ := mem
    exact ((resolves key uid).1 resolved).contains
  · intro key lead own isLead same entry mem has
    exact (resolves key entry.uid).2 <| LegacyIndex.standsFor_of_same networkClass isLead
      (Catalog.mem_toList.1 mem) has (ascii entry mem own has) same
  · rw [LegacyIndex.migrate_eq, LegacyIndex.migrateThrough, LegacyIndex.migrateThrough,
      through order, through (.refl _)]

/-- A coin comes by its name and a token by two spellings of its address, of which one has the
sign of the kelvin for a letter. -/
theorem coin_and_token_migrated :
    let catalog := Catalog.ofEntries [
      Catalog.listing "bitcoin-mainnet:__native__" "btc" "Bitcoin" [] none 8,
      Catalog.listing "ethereum-mainnet:0xk1" "tok" "Token" [] (some "0xK1") 18]
    let index := { LegacyIndex.blank with
      enabled := ["BitCoin", "ERC20_0xk1", "erc20:0x\u212a1", "eth", "xrp"] }
    catalog.AddressesApart ∧
      (∀ entry ∈ catalog.toList, ∀ own ∈ entry.tokenAddress, Text.IsAscii own) ∧
      index.migrateThrough catalog.toList.reverse catalog .mainnet =
        .ofIds [⟨"bitcoin-mainnet:__native__"⟩, ⟨"ethereum-mainnet:0xk1"⟩] := by
  intro catalog index
  have apart : catalog.AddressesApart := by decide +kernel
  have ascii : ∀ entry ∈ catalog.toList, ∀ own ∈ entry.tokenAddress, Text.IsAscii own := by
    decide +kernel
  obtain ⟨-, -, -, -, -, anyOrder⟩ := migrated_index_loses_nothing apart ascii .mainnet index
  refine ⟨apart, ascii, (anyOrder _ (List.reverse_perm _)).trans ?_⟩
  decide +kernel

end MultiWallet
