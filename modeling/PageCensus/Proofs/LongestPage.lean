import PageCensus.LongestPage

/-!
# What is kept of the pages looked at

Looking at pages one after the other keeps the first of the longest ones, where the length of a page
is what 64 bits with a sign hold of it.  A page whose length does not fit becomes negative and is
never kept, as if it had not been looked at.

* `IsFirstMax` — the first of the items with the greatest key.
* `LongestPage.Kept`, `LongestPage.Kept.observe` — what is kept of several pages, and that looking
  at one more keeps it so.
* `LongestPage.kept_observeAll` — hence what is kept after any pages.
* `LongestPage.Kept.isBeatenBy_iff` — which page is longer than what is kept of those before it.
* `LongestPage.Tracks`, `LongestPage.tracks_observeAll` — all of this, along any pages.
-/

set_option autoImplicit false

namespace PageCensus

/-! ## The first of the greatest -/

section

variable {α β : Type} {key : α → Int} {items : List α} {a b : α}

/-- **The first of the items with the greatest key**: every item before it has a smaller key, and no
item behind it has a greater one. -/
def IsFirstMax (key : α → Int) (items : List α) (a : α) : Prop :=
  ∃ before after, items = before ++ a :: after ∧ (∀ b ∈ before, key b < key a) ∧
    ∀ b ∈ after, key b ≤ key a

namespace IsFirstMax

theorem mem (h : IsFirstMax key items a) : a ∈ items := by
  obtain ⟨before, after, rfl, -, -⟩ := h
  simp

theorem le (h : IsFirstMax key items a) (hb : b ∈ items) : key b ≤ key a := by
  obtain ⟨before, after, rfl, hbefore, hafter⟩ := h
  rw [List.mem_append, List.mem_cons] at hb
  rcases hb with hb | rfl | hb
  · exact Int.le_of_lt (hbefore b hb)
  · exact Int.le_refl _
  · exact hafter b hb

/-- There is only one. -/
theorem unique (h : IsFirstMax key items a) (h' : IsFirstMax key items b) : a = b := by
  have hle := h.le h'.mem
  have hle' := h'.le h.mem
  obtain ⟨before, after, hitems, hbefore, -⟩ := h
  obtain ⟨before', after', hitems', hbefore', -⟩ := h'
  -- neither can stand before the other, where all keys are smaller
  rcases List.append_eq_append_iff.1 (hitems.symm.trans hitems') with ⟨c, rfl, hc⟩ | ⟨c, rfl, hc⟩
  · cases c with
    | nil => exact (List.cons.inj hc).1
    | cons first rest =>
      obtain ⟨rfl, -⟩ := List.cons.inj hc
      have hlt := hbefore' a (List.mem_append_right _ List.mem_cons_self)
      omega
  · cases c with
    | nil => exact (List.cons.inj hc).1.symm
    | cons first rest =>
      obtain ⟨rfl, -⟩ := List.cons.inj hc
      have hlt := hbefore b (List.mem_append_right _ List.mem_cons_self)
      omega

/-- An item at the end that has no greater key changes nothing. -/
theorem concat_of_le (h : IsFirstMax key items a) (hb : key b ≤ key a) :
    IsFirstMax key (items ++ [b]) a := by
  obtain ⟨before, after, rfl, hbefore, hafter⟩ := h
  refine ⟨before, after ++ [b], by simp, hbefore, fun c hc => ?_⟩
  rw [List.mem_append, List.mem_singleton] at hc
  rcases hc with hc | rfl
  · exact hafter c hc
  · exact hb

/-- An item at the end with a key greater than all others takes the place. -/
theorem concat_of_lt (h : ∀ b ∈ items, key b < key a) : IsFirstMax key (items ++ [a]) a :=
  ⟨items, [], rfl, h, fun _ hb => absurd hb List.not_mem_nil⟩

/-- Which item it is depends on the keys of the items alone. -/
theorem congr {key' : α → Int} (h : IsFirstMax key items a) (hkey : ∀ b ∈ items, key b = key' b) :
    IsFirstMax key' items a := by
  have ha := hkey a h.mem
  obtain ⟨before, after, rfl, hbefore, hafter⟩ := h
  refine ⟨before, after, rfl, fun b hb => ?_, fun b hb => ?_⟩
  · rw [← hkey b (List.mem_append_left _ hb), ← ha]
    exact hbefore b hb
  · rw [← hkey b (List.mem_append_right _ (List.mem_cons_of_mem _ hb)), ← ha]
    exact hafter b hb

/-- An item with the greatest key comes from the first such item before a map. -/
theorem exists_of_map {f : α → β} {key : β → Int} {b : β} (h : IsFirstMax key (items.map f) b) :
    ∃ a, f a = b ∧ IsFirstMax (fun a => key (f a)) items a := by
  obtain ⟨before, after, hsplit, hbefore, hafter⟩ := h
  obtain ⟨before, rest, rfl, rfl, hrest⟩ := List.map_eq_append_iff.1 hsplit
  obtain ⟨a, after, rfl, rfl, rfl⟩ := List.map_eq_cons_iff.1 hrest
  exact ⟨a, rfl, before, after, rfl, fun c hc => hbefore _ (List.mem_map_of_mem hc),
    fun c hc => hafter _ (List.mem_map_of_mem hc)⟩

/-- In whatever order the items stand, the greatest key is the same. -/
theorem key_eq_of_perm {items' : List α} (hperm : items.Perm items')
    (h : IsFirstMax key items a) (h' : IsFirstMax key items' b) : key a = key b :=
  Int.le_antisymm (h'.le (hperm.mem_iff.1 h.mem)) (h.le (hperm.mem_iff.2 h'.mem))

end IsFirstMax

end

/-! ## The pages looked at -/

namespace LongestPage

/-- Look at pages one after the other, each given by its address and its length. -/
def observeAll (longest : LongestPage) (pages : List (String × Nat)) : LongestPage :=
  pages.foldl (fun longest page => longest.observe page.1 page.2) longest

/-- **What is kept of several pages**, each given by its address and its length. -/
inductive Kept (pages : List (String × Nat)) : LongestPage → Prop where
  /-- Nothing is kept if no page has a length that can be held. -/
  | nothing (h : ∀ page ∈ pages, signed64 page.2 < 0) : Kept pages .initial
  /-- Otherwise the first of the longest pages is kept. -/
  | first {page : String × Nat} (h : IsFirstMax (fun page => signed64 page.2) pages page)
      (hsign : 0 ≤ signed64 page.2) : Kept pages ⟨some page.1, signed64 page.2⟩

theorem isBeatenBy_iff {longest : LongestPage} {length : Nat} :
    longest.isBeatenBy length = true ↔ longest.length < signed64 length := by
  rw [isBeatenBy, decide_eq_true_iff]

/-- **One more page.** -/
theorem Kept.observe {pages : List (String × Nat)} {longest : LongestPage}
    (h : Kept pages longest) (url : String) (length : Nat) :
    Kept (pages ++ [(url, length)]) (longest.observe url length) := by
  cases hbeaten : longest.isBeatenBy length with
  | true =>
    rw [observe_of_isBeatenBy hbeaten]
    rw [isBeatenBy_iff] at hbeaten
    refine @Kept.first _ (url, length) (.concat_of_lt fun page hpage => ?_) ?_
    · cases h with
      | nothing hnone =>
        have hnegative := hnone page hpage
        have hlt : -1 < signed64 length := hbeaten
        show signed64 page.2 < signed64 length
        omega
      | first hmax hsign => exact Int.lt_of_le_of_lt (hmax.le hpage) hbeaten
    · show 0 ≤ signed64 length
      cases h with
      | nothing => exact Int.add_one_le_iff.2 hbeaten
      | first hmax hsign => exact Int.le_of_lt (Int.lt_of_le_of_lt hsign hbeaten)
  | false =>
    rw [observe_of_not_isBeatenBy hbeaten]
    have hle : signed64 length ≤ longest.length :=
      Int.not_lt.1 fun hlt => by rw [isBeatenBy_iff.2 hlt] at hbeaten; cases hbeaten
    cases h with
    | nothing hnone =>
      refine .nothing fun page hpage => ?_
      rw [List.mem_append, List.mem_singleton] at hpage
      rcases hpage with hpage | rfl
      · exact hnone page hpage
      · exact Int.lt_of_le_of_lt hle (by decide)
    | first hmax hsign => exact .first (hmax.concat_of_le hle) hsign

theorem Kept.observeAll {pages : List (String × Nat)} {longest : LongestPage}
    (h : Kept pages longest) (more : List (String × Nat)) :
    Kept (pages ++ more) (longest.observeAll more) := by
  induction more generalizing pages longest with
  | nil => rwa [List.append_nil]
  | cons page more ih =>
    rw [← List.singleton_append, ← List.append_assoc]
    exact ih (h.observe page.1 page.2)

/-- **What is kept after any pages.** -/
theorem kept_observeAll (pages : List (String × Nat)) : Kept pages (initial.observeAll pages) :=
  Kept.observeAll (.nothing fun _ hpage => absurd hpage List.not_mem_nil) pages

/-! ## Along the pages -/

theorem observeAll_append (longest : LongestPage) (before after : List (String × Nat)) :
    longest.observeAll (before ++ after) = (longest.observeAll before).observeAll after :=
  List.foldl_append

/-- **A page is longer than what is kept** exactly if its length can be held and is greater than all
lengths before. -/
theorem Kept.isBeatenBy_iff {pages : List (String × Nat)} {longest : LongestPage}
    (h : Kept pages longest) (length : Nat) :
    longest.isBeatenBy length = true ↔
      0 ≤ signed64 length ∧ ∀ page ∈ pages, signed64 page.2 < signed64 length := by
  rw [LongestPage.isBeatenBy_iff]
  cases h with
  | nothing hnone =>
    constructor
    · intro hlt
      have hsign : 0 ≤ signed64 length := Int.add_one_le_iff.2 hlt
      exact ⟨hsign, fun page hpage => Int.lt_of_lt_of_le (hnone page hpage) hsign⟩
    · rintro ⟨hsign, -⟩
      exact Int.lt_of_lt_of_le (by decide) hsign
  | first hmax hpage =>
    constructor
    · intro hlt
      exact ⟨Int.le_of_lt (Int.lt_of_le_of_lt hpage hlt),
        fun page hmem => Int.lt_of_le_of_lt (hmax.le hmem) hlt⟩
    · rintro ⟨-, hall⟩
      exact hall _ hmax.mem

/-- Before a page is kept there is no address, and afterwards the length is not negative. -/
theorem Kept.url_eq_none_iff {pages : List (String × Nat)} {longest : LongestPage}
    (h : Kept pages longest) : longest.url = none ↔ longest.length = -1 := by
  cases h with
  | nothing => exact ⟨fun _ => rfl, fun _ => rfl⟩
  | @first page hmax hsign =>
    constructor
    · intro hurl
      cases hurl
    · intro hlength
      have hnegative : signed64 page.2 = -1 := hlength
      omega

/-- Either address and length are both replaced, by those of a longer page, or neither is. -/
theorem observe_cases (longest : LongestPage) (url : String) (length : Nat) :
    (longest.isBeatenBy length = true ∧ longest.length < signed64 length ∧
      longest.observe url length = ⟨some url, signed64 length⟩) ∨
    (longest.isBeatenBy length = false ∧ longest.observe url length = longest) := by
  cases hbeaten : longest.isBeatenBy length with
  | true => exact Or.inl ⟨rfl, isBeatenBy_iff.1 hbeaten, observe_of_isBeatenBy hbeaten⟩
  | false => exact Or.inr ⟨rfl, observe_of_not_isBeatenBy hbeaten⟩

theorem length_le_observeAll (longest : LongestPage) (pages : List (String × Nat)) :
    longest.length ≤ (longest.observeAll pages).length := by
  induction pages generalizing longest with
  | nil => exact Int.le_refl _
  | cons page pages ih =>
    refine Int.le_trans ?_ (ih (longest.observe page.1 page.2))
    rcases observe_cases longest page.1 page.2 with ⟨-, hlt, hobserve⟩ | ⟨-, hobserve⟩
    · rw [hobserve]
      exact Int.le_of_lt hlt
    · exact Int.le_of_eq (congrArg LongestPage.length hobserve.symm)

/-- **What looking at pages one after the other does**, each given by its address and a length that
64 bits hold. -/
structure Tracks (pages : List (String × Nat)) : Prop where
  /-- Lengths from `2 ^ 63` on are read as negative. -/
  signed : ∀ page ∈ pages, signed64 page.2 =
    if page.2 < 1 <<< 63 then (page.2 : Int) else page.2 - (1 <<< 64 : Nat)
  /-- A page is found to be longer exactly if its length is not negative and greater than those of
  all pages before it. -/
  longer_iff : ∀ before page after, pages = before ++ page :: after →
    ((initial.observeAll before).isBeatenBy page.2 = true ↔
      0 ≤ signed64 page.2 ∧ ∀ earlier ∈ before, signed64 earlier.2 < signed64 page.2)
  /-- If some length is not negative, the first of the longest pages is kept. -/
  first : (∃ page ∈ pages, 0 ≤ signed64 page.2) →
    ∃ page, IsFirstMax (fun page => signed64 page.2) pages page ∧
      initial.observeAll pages = ⟨some page.1, signed64 page.2⟩
  /-- Otherwise none is. -/
  nothing : (∀ page ∈ pages, signed64 page.2 < 0) → initial.observeAll pages = ⟨none, -1⟩
  /-- At any time, there is no address exactly if the length is `-1`. -/
  url_eq_none_iff : ∀ before after, pages = before ++ after →
    ((initial.observeAll before).url = none ↔ (initial.observeAll before).length = -1)
  /-- The length never decreases. -/
  length_le : ∀ before between after, pages = before ++ between ++ after →
    (initial.observeAll before).length ≤ (initial.observeAll (before ++ between)).length
  /-- A page that is found to be longer replaces address and length, and any other page neither. -/
  together : ∀ before page after, pages = before ++ page :: after →
    ((initial.observeAll before).isBeatenBy page.2 = true ∧
      (initial.observeAll before).length < signed64 page.2 ∧
      initial.observeAll (before ++ [page]) = ⟨some page.1, signed64 page.2⟩) ∨
    ((initial.observeAll before).isBeatenBy page.2 = false ∧
      initial.observeAll (before ++ [page]) = initial.observeAll before)
  /-- A page with a length from `2 ^ 63` on might as well not have been looked at. -/
  ignored : ∀ before page after, pages = before ++ page :: after → 1 <<< 63 ≤ page.2 →
    (initial.observeAll before).isBeatenBy page.2 = false ∧
      ∀ more, initial.observeAll (before ++ page :: more) = initial.observeAll (before ++ more)

/-- **Looking at pages keeps the first of the longest**, and at any time what it kept of those
before. -/
theorem tracks_observeAll {pages : List (String × Nat)} (h : ∀ page ∈ pages, page.2 < 1 <<< 64) :
    Tracks pages := by
  have hkept := kept_observeAll pages
  constructor
  case signed =>
    intro page hpage
    split
    · next hlt => exact signed64_of_lt hlt
    · next hle => exact signed64_of_le (Nat.not_lt.1 hle) (h page hpage)
  case longer_iff => exact fun before page _ _ => (kept_observeAll before).isBeatenBy_iff page.2
  case first =>
    rintro ⟨page, hpage, hsign⟩
    generalize initial.observeAll pages = longest at hkept ⊢
    cases hkept with
    | nothing hnone => exact absurd hsign (Int.not_le.2 (hnone page hpage))
    | @first page hmax => exact ⟨page, hmax, rfl⟩
  case nothing =>
    intro hnone
    generalize initial.observeAll pages = longest at hkept ⊢
    cases hkept with
    | nothing => rfl
    | first hmax hsign => exact absurd hsign (Int.not_le.2 (hnone _ hmax.mem))
  case url_eq_none_iff => exact fun before _ _ => (kept_observeAll before).url_eq_none_iff
  case length_le =>
    intro before between _ _
    rw [observeAll_append]
    exact length_le_observeAll _ between
  case together =>
    intro before page _ _
    rw [observeAll_append]
    exact observe_cases _ page.1 page.2
  case ignored =>
    rintro before page after rfl hle
    have hpage : page.2 < 1 <<< 64 := h page (by simp)
    have hbeaten : (initial.observeAll before).isBeatenBy page.2 = false := by
      rw [Bool.eq_false_iff, Ne, (kept_observeAll before).isBeatenBy_iff, signed64_of_le hle hpage]
      omega
    refine ⟨hbeaten, fun more => ?_⟩
    rw [observeAll_append, observeAll_append]
    show ((initial.observeAll before).observe page.1 page.2).observeAll more = _
    rw [observe_of_not_isBeatenBy hbeaten]

/-- An empty page, the length that is read as `-1`, the first that is read as negative, and a tie
between the longest. -/
theorem tracks_observeAll_of_tie :
    let pages := [("a", (1 <<< 64) - 1), ("b", 0), ("c", 1 <<< 63), ("d", (1 <<< 63) - 1), ("b", 7),
      ("e", (1 <<< 63) - 1)]
    (∀ page ∈ pages, page.2 < 1 <<< 64) ∧ Tracks pages := by
  intro pages
  have h : ∀ page ∈ pages, page.2 < 1 <<< 64 := by decide
  exact ⟨h, tracks_observeAll h⟩

end LongestPage

end PageCensus
