import LivingDoc.Proofs.Citation
import LivingDoc.Proofs.Draft
import LivingDoc.Proofs.Lines
import Mathlib.Data.List.DropRight

namespace LivingDoc

namespace Text

open Unicode

theorem pieces_eq (p : Char → Bool) (l : List Char) : pieces p l = l.splitOnP p := by
  induction l with
  | nil => rfl
  | cons c l ih => rw [pieces, ih, List.splitOnP_cons_eq_if_modifyHead]

theorem trim_trim (l : List Char) : trim (trim l) = trim l := by
  have hstart : trimStart (trim l) = trim l := by
    cases h : trim l with
    | nil => rfl
    | cons c r => exact trimStart_cons (Bool.eq_false_iff.mpr (not_isBlank_of_trim h)) r
  rw [trim, hstart]
  exact List.rdropWhile_idempotent isBlank (trimStart l)

theorem trim_eq_iff {l core : List Char} : trim l = core ↔
    ∃ before after, l = before ++ core ++ after ∧ before.all isBlank ∧ after.all isBlank ∧
      (∀ c ∈ core.head?, ¬ isBlank c) ∧ ∀ c ∈ core.getLast?, ¬ isBlank c := by
  constructor
  · rintro rfl
    refine ⟨_, _, eq_trim_append l, List.all_takeWhile, ?_, fun c hc ↦ ?_, fun c hc ↦ ?_⟩
    · rw [List.all_reverse]
      exact List.all_takeWhile
    · obtain ⟨r, hr⟩ := List.head?_eq_some_iff.mp hc
      exact not_isBlank_of_trim hr
    · rw [trim, trimEnd, List.getLast?_reverse] at hc
      have hlast := List.head?_dropWhile_not isBlank (trimStart l).reverse
      rw [Option.mem_def.mp hc] at hlast
      exact Bool.eq_false_iff.mp hlast
  · rintro ⟨before, after, rfl, hbefore, hafter, hhead, hlast⟩
    have hend : trimEnd core = core := by
      rw [trimEnd]
      cases hr : core.reverse with
      | nil => exact (List.reverse_eq_nil_iff.mp hr).symm
      | cons c r =>
        have hc : core.getLast? = some c := by
          rw [← List.head?_reverse, hr]
          rfl
        rw [List.dropWhile_cons_of_neg (hlast c hc), ← hr, List.reverse_reverse]
    rw [trim, List.append_assoc, trimStart_of_all hbefore]
    cases core with
    | nil =>
      rw [List.nil_append, trimStart_eq_nil hafter]
      rfl
    | cons c r =>
      have hc := Bool.eq_false_iff.mpr (hhead c rfl)
      rw [List.cons_append, trimStart_cons hc, ← List.cons_append, trimEnd_append_blank hafter,
        hend]

theorem fold_eq_nil_iff {s : String} : fold s = [] ↔ s = "" := by
  rw [fold, List.map_eq_nil_iff, String.toList_eq_nil_iff]

end Text

namespace TagFilter

open Unicode

/-- What filters compare: the name of a tag, with the letters A to Z in lower case. -/
def key (tag : String) : List Char := Text.fold (nameOf tag)

/-- A tag is written as a name, before which one at sign may stand, and with white space around it.
-/
def Spells (tag name : List Char) : Prop :=
  ∃ before core after, tag = before ++ core ++ after ∧ before.all isBlank ∧ after.all isBlank ∧
    (∀ c ∈ core.head?, ¬ isBlank c) ∧ (∀ c ∈ core.getLast?, ¬ isBlank c) ∧
    (core = '@' :: name ∨ core = name ∧ name.head? ≠ some '@')

theorem spells_iff {tag name : List Char} : Spells tag name ↔
    Text.trim tag = '@' :: name ∨ Text.trim tag = name ∧ name.head? ≠ some '@' := by
  constructor
  · rintro ⟨before, core, after, htag, hbefore, hafter, hhead, hlast, hcore⟩
    rwa [Text.trim_eq_iff.mpr ⟨before, after, htag, hbefore, hafter, hhead, hlast⟩]
  · intro h
    obtain ⟨before, after, htag, hbefore, hafter, hhead, hlast⟩ :=
      Text.trim_eq_iff.mp (rfl : _ = Text.trim tag)
    exact ⟨before, _, after, htag, hbefore, hafter, hhead, hlast, h⟩

theorem spells_nameOf (tag : String) {name : List Char} :
    Spells tag.toList name ↔ name = (nameOf tag).toList := by
  rw [spells_iff, nameOf]
  split
  · next l hl =>
    rw [hl, String.toList_ofList]
    constructor
    · rintro (h | ⟨rfl, h⟩)
      · exact (List.cons.inj h).2.symm
      · exact absurd rfl h
    · rintro rfl
      exact .inl rfl
  · next hne =>
    rw [String.toList_ofList]
    constructor
    · rintro (h | ⟨h, -⟩)
      · exact absurd h (hne name)
      · exact h.symm
    · rintro rfl
      refine .inr ⟨rfl, fun h ↦ ?_⟩
      obtain ⟨l, hl⟩ := List.head?_eq_some_iff.mp h
      exact hne l hl

/-- The key of a tag is its name, without white space around it and one at sign before it, with the
letters A to Z made small. -/
theorem key_eq_iff_spells {tag : String} {k : List Char} :
    key tag = k ↔ ∃ name, Spells tag.toList name ∧
      k = name.map fun c ↦ if 'A' ≤ c ∧ c ≤ 'Z' then .ofNat (c.toNat + 32) else c := by
  have hlower (c : Char) : c.toLower = if 'A' ≤ c ∧ c ≤ 'Z' then .ofNat (c.toNat + 32) else c := by
    have hc : c.val ≥ 'A'.val ∧ c.val ≤ 'Z'.val ↔ 'A' ≤ c ∧ c ≤ 'Z' := Iff.rfl
    by_cases h : 'A' ≤ c ∧ c ≤ 'Z'
    · rw [if_pos h]
      have hn : 65 ≤ c.toNat ∧ c.toNat ≤ 90 := by
        simpa [Char.le_def, UInt32.le_iff_toNat_le] using h
      have hsmall : ∀ n, 65 ≤ n → n ≤ 90 → (Char.ofNat n).toLower = .ofNat (n + 32) := by decide
      have := hsmall c.toNat hn.1 hn.2
      rwa [Char.ofNat_toNat] at this
    · rw [if_neg h]
      unfold Char.toLower
      rw [dif_neg (hc.not.mpr h)]
  simp only [spells_nameOf, exists_eq_left, ← hlower]
  rw [key, Text.fold]
  exact eq_comm

def Fresh (before : List String) (e : String) : Prop := key e ≠ [] ∧ ∀ d ∈ before, key d ≠ key e

instance (before : List String) (e : String) : Decidable (Fresh before e) :=
  inferInstanceAs (Decidable (_ ∧ _))

/-- The names that entries give, each spelled as in the first entry with its key. -/
def spellings (entries : List String) : List String :=
  (entries.zipIdx.filter fun q ↦ Fresh (entries.take q.2) q.1).map fun q ↦ nameOf q.1

/-- What the filter of some entries matches, and which names it keeps. -/
structure Collects (entries : List String) (f : TagFilter) : Prop where
  matchesTag_iff : ∀ tag, f.matchesTag tag ↔ key tag ≠ [] ∧ ∃ e ∈ entries, key e = key tag
  filled : ∀ name ∈ f.names, name ≠ ""
  apart : f.names.Pairwise fun m n ↦ Text.fold m ≠ Text.fold n
  names_eq : f.names = spellings entries

variable {f : TagFilter} {e tag : String} {entries : List String}

theorem key_eq_nil_iff : key e = [] ↔ nameOf e = "" := Text.fold_eq_nil_iff

theorem matchesTag_iff_exists_name : f.matchesTag tag ↔
    ∃ name ∈ f.names, Text.fold name = key tag := by
  rw [matchesTag, List.any_eq_true]
  simp only [Text.sameFold, decide_eq_true_eq, key]
  exact exists_congr fun name ↦ and_congr_right fun _ ↦ eq_comm

theorem insert_of_skipped (h : key e = [] ∨ f.matchesTag e) : f.insert e = f := by
  apply if_pos
  rw [Bool.or_eq_true, String.isEmpty_iff, ← key_eq_nil_iff]
  exact h

theorem insert_of_new (hkey : key e ≠ []) (hf : ¬ f.matchesTag e) :
    f.insert e = ⟨f.names ++ [nameOf e]⟩ := by
  apply if_neg
  rw [Bool.or_eq_true, String.isEmpty_iff, ← key_eq_nil_iff]
  exact not_or.mpr ⟨hkey, hf⟩

theorem matchesTag_congr (h : key e = key tag) : f.matchesTag e ↔ f.matchesTag tag := by
  rw [matchesTag_iff_exists_name, matchesTag_iff_exists_name, h]

theorem matchesTag_insert :
    (f.insert e).matchesTag tag ↔ f.matchesTag tag ∨ key e ≠ [] ∧ key e = key tag := by
  by_cases hskipped : key e = [] ∨ f.matchesTag e
  · rw [insert_of_skipped hskipped]
    refine ⟨.inl, fun h ↦ h.elim id fun ⟨hkey, he⟩ ↦ ?_⟩
    exact (matchesTag_congr he).mp (hskipped.resolve_left hkey)
  · obtain ⟨hkey, hf⟩ := not_or.mp hskipped
    rw [insert_of_new hkey hf, matchesTag_iff_exists_name, matchesTag_iff_exists_name]
    simp only [List.mem_append, List.mem_singleton, or_and_right, exists_or, exists_eq_left]
    exact or_congr_right (iff_and_self.mpr fun _ ↦ hkey)

theorem spellings_concat (entries : List String) (e : String) :
    spellings (entries ++ [e]) = spellings entries ++
      if Fresh entries e then [nameOf e] else [] := by
  have hearlier : entries.zipIdx.filter (fun q ↦ Fresh ((entries ++ [e]).take q.2) q.1) =
      entries.zipIdx.filter fun q ↦ Fresh (entries.take q.2) q.1 := by
    refine List.filter_congr fun q hq ↦ ?_
    rw [List.take_append_of_le_length (List.snd_lt_of_mem_zipIdx hq).le]
  have hlast : (entries ++ [e]).take entries.length = entries := List.take_left
  rw [spellings, List.zipIdx_append, List.filter_append, List.map_append, hearlier, spellings,
    Nat.zero_add, List.zipIdx_singleton]
  by_cases hfresh : Fresh entries e <;> simp [hlast, hfresh]

/-- A filter with one more entry, which adds its name if its key is not empty and new. -/
theorem Collects.insert (h : Collects entries f) (e : String) :
    Collects (entries ++ [e]) (f.insert e) := by
  have hmatches (tag : String) : (f.insert e).matchesTag tag ↔
      key tag ≠ [] ∧ ∃ d ∈ entries ++ [e], key d = key tag := by
    rw [matchesTag_insert, h.matchesTag_iff]
    simp only [List.mem_append, List.mem_singleton, or_and_right, exists_or, exists_eq_left,
      and_or_left]
    exact or_congr_right (and_congr_left fun he ↦ by rw [he])
  have hfresh : Fresh entries e ↔ key e ≠ [] ∧ ¬ f.matchesTag e := by
    rw [h.matchesTag_iff, Fresh]
    exact and_congr_right fun hkey ↦ by simp [hkey]
  have hnames := spellings_concat entries e
  by_cases hnew : Fresh entries e
  · rw [if_pos hnew, ← h.names_eq] at hnames
    obtain ⟨hkey, hf⟩ := hfresh.mp hnew
    rw [insert_of_new hkey hf] at hmatches ⊢
    refine ⟨hmatches, ?_, ?_, hnames.symm⟩
    · rw [List.forall_mem_append, List.forall_mem_singleton]
      exact ⟨h.filled, mt key_eq_nil_iff.mpr hkey⟩
    · rw [List.pairwise_append]
      refine ⟨h.apart, List.pairwise_singleton _ _, fun m hm n hn he ↦ hf ?_⟩
      rw [List.mem_singleton.mp hn] at he
      exact matchesTag_iff_exists_name.mpr ⟨m, hm, he⟩
  · rw [if_neg hnew, List.append_nil, ← h.names_eq] at hnames
    rw [hfresh, not_and_or, not_not, not_not] at hnew
    rw [insert_of_skipped hnew] at hmatches ⊢
    exact { h with matchesTag_iff := hmatches, names_eq := hnames.symm }

theorem collects_empty : Collects [] empty where
  matchesTag_iff tag := by simp [matchesTag_empty]
  filled := by simp [empty]
  apart := .nil
  names_eq := rfl

theorem Collects.foldl (h : Collects entries f) (others : List String) :
    Collects (entries ++ others) (others.foldl TagFilter.insert f) := by
  induction others generalizing entries f with
  | nil => rwa [List.append_nil]
  | cons e others ih =>
    rw [List.append_cons, List.foldl_cons]
    exact ih (h.insert e)

theorem collects_ofList (entries : List String) : Collects entries (ofList entries) :=
  collects_empty.foldl entries

def entriesOf (list : String) : List String :=
  (list.toList.splitOnP fun c ↦ c = ';' || c = ',').map .ofList

theorem nameOf_trim (l : List Char) : nameOf (.ofList (Text.trim l)) = nameOf (.ofList l) := by
  rw [nameOf, nameOf, String.toList_ofList, String.toList_ofList, Text.trim_trim]

theorem key_of_trim_eq_nil {l : List Char} (h : Text.trim l = []) : key (.ofList l) = [] := by
  rw [key, ← nameOf_trim, h]
  rfl

/-- Entries may be trimmed and blank ones left out before they are inserted, for insertion does
both. -/
theorem foldl_insert_trim (f : TagFilter) (pieces : List (List Char)) :
    (((pieces.map Text.trim).filter (!·.isEmpty)).map String.ofList).foldl TagFilter.insert f =
      (pieces.map String.ofList).foldl TagFilter.insert f := by
  induction pieces generalizing f with
  | nil => rfl
  | cons l pieces ih =>
    rw [List.map_cons, List.map_cons, List.foldl_cons]
    by_cases hl : Text.trim l = []
    · rw [List.filter_cons_of_neg (by simp [hl]), insert_of_skipped (.inl (key_of_trim_eq_nil hl)),
        ih]
    · rw [List.filter_cons_of_pos (by simpa using hl), List.map_cons, List.foldl_cons, ih,
        TagFilter.insert, nameOf_trim, ← TagFilter.insert]

theorem parse_eq (list : String) : parse list = ofList (entriesOf list) := by
  rw [parse, Text.pieces_eq, entriesOf]
  exact foldl_insert_trim empty _

theorem entriesOf_append (a b : String) :
    entriesOf (a ++ ";" ++ b) = entriesOf a ++ entriesOf b := by
  have hlist : (a ++ ";" ++ b).toList = a.toList ++ ';' :: b.toList := by simp
  rw [entriesOf, hlist, List.splitOnP_append_cons _ _ (by simp), List.map_append, entriesOf,
    entriesOf]

theorem matchesTag_parse_append (a b tag : String) :
    (parse (a ++ ";" ++ b)).matchesTag tag ↔
      (parse a).matchesTag tag ∨ (parse b).matchesTag tag := by
  simp only [parse_eq, entriesOf_append, (collects_ofList _).matchesTag_iff, List.mem_append,
    or_and_right, exists_or, and_or_left]

theorem visible_visible {f g h : TagFilter}
    (hh : ∀ tag, h.matchesTag tag ↔ f.matchesTag tag ∨ g.matchesTag tag) (tags : List String) :
    g.visible (f.visible tags) = h.visible tags := by
  rw [visible, visible, visible, List.filter_filter]
  refine List.filter_congr fun tag _ ↦ ?_
  have hor : h.matchesTag tag = (f.matchesTag tag || g.matchesTag tag) := by
    rw [Bool.eq_iff_iff, Bool.or_eq_true, hh]
  rw [hor, Bool.not_or, Bool.and_comm]

/-- The filter of some entries matches the tags that share a key with one of them, and keeps the
first spelling of each key. A list that is written down gives the filter of its pieces, so lists
that hide one after the other, in either order, hide the same tags as one list of both. -/
theorem filters_by_key :
    (∀ entries, Collects entries (ofList entries)) ∧
      (∀ list, parse list = ofList (entriesOf list)) ∧
      ∀ a b tags, (parse b).visible ((parse a).visible tags) =
        (parse (a ++ ";" ++ b)).visible tags ∧
        (parse a).visible ((parse b).visible tags) = (parse (a ++ ";" ++ b)).visible tags ∧
        ((parse (a ++ ";" ++ b)).visible tags).Sublist tags ∧
        ∀ tag, tag ∈ (parse (a ++ ";" ++ b)).visible tags ↔
          tag ∈ tags ∧ ¬ (parse a).matchesTag tag ∧ ¬ (parse b).matchesTag tag := by
  refine ⟨collects_ofList, parse_eq, fun a b tags ↦ ⟨?_, ?_, List.filter_sublist, fun tag ↦ ?_⟩⟩
  · exact visible_visible (matchesTag_parse_append a b) tags
  · exact visible_visible (fun tag ↦ (matchesTag_parse_append a b tag).trans or_comm) tags
  · rw [mem_visible, ← Bool.not_eq_true, matchesTag_parse_append, not_or]

example : parse " @ a;; @A, @ A;b,@@b " = ⟨[" a", "A", "b", "@b"]⟩ := by decide +kernel

end TagFilter

end LivingDoc
