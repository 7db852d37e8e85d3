import LivingDoc.Proofs.TagFilter
import LivingDoc.Unicode.Lowercase

namespace LivingDoc

namespace Text

open Unicode

structure Steady (σ : Char → List Char) : Prop where
  blank : ∀ c, isBlank c → σ c = [c]
  ne_nil : ∀ c, σ c ≠ []
  firm : ∀ c d, isBlank c = false → d ∈ σ c → isBlank d = false

variable {σ : Char → List Char} {l m : List Char}

theorem steady_lowercase : Steady lowercase where
  blank _ := lowercase_of_isBlank
  ne_nil := lowercase_ne_nil
  firm _ _ := isBlank_of_mem_lowercase

theorem Steady.reverse (h : Steady σ) : Steady (List.reverse ∘ σ) where
  blank c hc := by rw [Function.comp_apply, h.blank c hc, List.reverse_singleton]
  ne_nil c := by simpa using h.ne_nil c
  firm c d hc hd := h.firm c d hc (List.mem_reverse.mp hd)

theorem Steady.flatMap (h : Steady σ) (l : List Char) :
    (l.flatMap σ).takeWhile isBlank = l.takeWhile isBlank ∧
      trimStart (l.flatMap σ) = (trimStart l).flatMap σ := by
  induction l with
  | nil => exact ⟨rfl, rfl⟩
  | cons c l ih =>
    rw [List.flatMap_cons]
    cases hc : isBlank c with
    | true =>
      rw [h.blank c hc, List.singleton_append, List.takeWhile_cons_of_pos hc,
        List.takeWhile_cons_of_pos hc, trimStart, List.dropWhile_cons_of_pos hc, trimStart,
        List.dropWhile_cons_of_pos hc, ih.1]
      exact ⟨rfl, ih.2⟩
    | false =>
      obtain ⟨d, ds, hσ⟩ := List.exists_cons_of_ne_nil (h.ne_nil c)
      have hd : isBlank d = false := h.firm c d hc (hσ ▸ List.mem_cons_self)
      rw [hσ, List.cons_append, trimStart_cons hd, trimStart_cons hc, List.flatMap_cons, hσ,
        List.takeWhile_cons_of_neg (Bool.eq_false_iff.mp hd),
        List.takeWhile_cons_of_neg (Bool.eq_false_iff.mp hc)]
      exact ⟨rfl, rfl⟩

theorem Steady.trimStart (h : Steady σ) (heq : l.flatMap σ = m.flatMap σ) :
    l.takeWhile isBlank = m.takeWhile isBlank ∧
      (trimStart l).flatMap σ = (trimStart m).flatMap σ := by
  rw [← (h.flatMap l).1, ← (h.flatMap l).2, heq, (h.flatMap m).1, (h.flatMap m).2]
  exact ⟨rfl, rfl⟩

theorem Steady.trim (h : Steady σ) (heq : l.flatMap σ = m.flatMap σ) :
    ∃ y z : List Char, y.all isBlank ∧ z.all isBlank ∧ l = y ++ trim l ++ z ∧ m = y ++ trim m ++ z ∧
      (trim l).flatMap σ = (trim m).flatMap σ := by
  obtain ⟨hy, hstart⟩ := h.trimStart heq
  -- The end of a text is the start of the reversed one, and reversed images keep white space too.
  have hreverse : (Text.trimStart l).reverse.flatMap (List.reverse ∘ σ) =
      (Text.trimStart m).reverse.flatMap (List.reverse ∘ σ) := by
    rw [← List.reverse_flatMap, hstart, List.reverse_flatMap]
  obtain ⟨hz, hend⟩ := h.reverse.trimStart hreverse
  refine ⟨_, _, List.all_takeWhile, ?_, eq_trim_append l, ?_, ?_⟩
  · rw [List.all_reverse]
    exact List.all_takeWhile
  · rw [hy, hz]
    exact eq_trim_append m
  · have hl := List.flatMap_reverse (l := Text.trimStart (Text.trimStart l).reverse) (f := σ)
    have hm := List.flatMap_reverse (l := Text.trimStart (Text.trimStart m).reverse) (f := σ)
    exact hl.trans ((congrArg List.reverse hend).trans hm.symm)

theorem toLower_eq_iff {c d : Char} (hd : d.toNat ≤ 0x40) : c.toLower = d ↔ c = d := by
  unfold Char.toLower
  split
  · next hupper =>
    have hc : 65 ≤ c.toNat ∧ c.toNat ≤ 90 := by simpa [UInt32.le_iff_toNat_le] using hupper
    constructor
    · intro he
      have hn : (c.toNat + 32) % 4294967296 = d.toNat := by simpa using congrArg Char.toNat he
      omega
    · intro he
      rw [he] at hc
      omega
  · exact Iff.rfl

theorem mem_fold_iff {d : Char} {s : String} (hd : d.toNat ≤ 0x40) : d ∈ fold s ↔ d ∈ s.toList := by
  simp only [fold, List.mem_map, toLower_eq_iff hd, exists_eq_right]

theorem not_of_mem_piece {p : Char → Bool} {c : Char} (hl : l ∈ m.splitOnP p) (hc : c ∈ l) :
    p c = false := by
  induction m generalizing l with
  | nil =>
    rw [List.splitOnP_nil, List.mem_singleton] at hl
    rw [hl] at hc
    contradiction
  | cons d m ih =>
    obtain ⟨first, others, hrest⟩ := List.exists_cons_of_ne_nil (List.splitOnP_ne_nil p m)
    rw [List.splitOnP_cons_eq_if_modifyHead, hrest, List.modifyHead_cons] at hl
    rw [hrest] at ih
    split at hl
    · rcases List.mem_cons.mp hl with rfl | hl
      · contradiction
      · exact ih hl hc
    · next hd =>
      rcases List.mem_cons.mp hl with rfl | hl
      · rcases List.mem_cons.mp hc with rfl | hc
        · exact Bool.eq_false_iff.mpr hd
        · exact ih List.mem_cons_self hc
      · exact ih (List.mem_cons_of_mem first hl) hc

end Text

namespace TagFilter

open Unicode

/-- A tag in lower case, character by character. -/
def lowered (tag : String) : List Char := tag.toList.flatMap lowercase

/-- A tag with a character in it that separates the entries of a list. -/
def Separated (tag : String) : Prop := ∃ c ∈ tag.toList, c = ';' ∨ c = ','

instance (tag : String) : Decidable (Separated tag) :=
  decidable_of_iff (tag.toList.any fun c ↦ c = ';' || c = ',') (by simp [Separated])

variable {d : Char} {l : List Char} {s t tag : String}

theorem head?_lowercase (hd : d.toNat ≤ 0x40) :
    (l.flatMap lowercase).head? = some d ↔ l.head? = some d := by
  cases l with
  | nil => exact Iff.rfl
  | cons c l =>
    obtain ⟨e, es, hc⟩ := List.exists_cons_of_ne_nil (lowercase_ne_nil c)
    rw [List.flatMap_cons, hc, List.cons_append, List.head?_cons, List.head?_cons, Option.some_inj,
      Option.some_inj]
    constructor
    · intro he
      have hmem : d ∈ lowercase c := by
        rw [hc, he]
        exact List.mem_cons_self
      exact ((mem_lowercase_iff hd).mp hmem).symm
    · intro he
      rw [he, lowercase_of_le hd] at hc
      exact (List.cons.inj hc).1.symm

theorem mem_lowered_iff (hd : d.toNat ≤ 0x40) : d ∈ lowered tag ↔ d ∈ tag.toList := by
  simp only [lowered, List.mem_flatMap, mem_lowercase_iff hd, exists_eq_right']

def signOf (tag : String) : List Char :=
  if (Text.trim tag.toList).head? = some '@' then ['@'] else []

theorem trim_eq (tag : String) : Text.trim tag.toList = signOf tag ++ (nameOf tag).toList := by
  rw [nameOf]
  split
  · next l hl =>
    rw [signOf, hl, String.toList_ofList]
    rfl
  · next hne =>
    rw [signOf, String.toList_ofList, if_neg, List.nil_append]
    intro hhead
    obtain ⟨l, hl⟩ := List.head?_eq_some_iff.mp hhead
    exact hne l hl

/-- Tags with one lower case have their names in the same place, behind the same sign. -/
theorem exists_frame (h : lowered s = lowered t) :
    ∃ p z : List Char, (∀ c ∈ p ++ z, isBlank c ∨ c = '@') ∧
      s.toList = p ++ (nameOf s).toList ++ z ∧ t.toList = p ++ (nameOf t).toList ++ z := by
  obtain ⟨y, z, hy, hz, hs, ht, htrim⟩ := Text.steady_lowercase.trim h
  have hsign : signOf s = signOf t := by
    have hhead : (Text.trim s.toList).head? = some '@' ↔ (Text.trim t.toList).head? = some '@' := by
      rw [← head?_lowercase (by decide), htrim, head?_lowercase (by decide)]
    rw [signOf, signOf, if_congr hhead rfl rfl]
  rw [trim_eq, ← List.append_assoc] at hs ht
  rw [← hsign] at ht
  refine ⟨y ++ signOf s, z, fun c hc ↦ ?_, hs, ht⟩
  rw [List.append_assoc, List.mem_append, List.mem_append] at hc
  rcases hc with hc | hc | hc
  · exact .inl (List.all_eq_true.mp hy c hc)
  · rw [signOf] at hc
    split at hc
    · exact .inr (List.mem_singleton.mp hc)
    · contradiction
  · exact .inl (List.all_eq_true.mp hz c hc)

theorem key_eq_iff (h : lowered s = lowered t) : key s = key t ↔ Text.fold s = Text.fold t := by
  obtain ⟨p, z, -, hs, ht⟩ := exists_frame h
  rw [key, key, Text.fold, Text.fold, Text.fold, Text.fold, hs, ht]
  simp only [List.map_append, List.append_cancel_right_eq, List.append_cancel_left_eq]

theorem matchesTag_singleton : (ofList [s]).matchesTag t ↔ key t ≠ [] ∧ key s = key t := by
  rw [(collects_ofList [s]).matchesTag_iff]
  simp only [List.mem_singleton, exists_eq_left]

theorem key_eq_of_alike (hs : (ofList [s]).matchesTag s = (ofList [s]).matchesTag t)
    (ht : (ofList [t]).matchesTag s = (ofList [t]).matchesTag t) : key s = key t := by
  by_cases hkey : key s = []
  · by_contra hne
    have hown : (ofList [t]).matchesTag t :=
      matchesTag_singleton.mpr ⟨fun hnil ↦ hne (hkey.trans hnil.symm), rfl⟩
    exact (matchesTag_singleton.mp (ht.trans hown)).1 hkey
  · have hown : (ofList [s]).matchesTag s := matchesTag_singleton.mpr ⟨hkey, rfl⟩
    exact (matchesTag_singleton.mp (hs.symm.trans hown)).2

theorem separated_iff (h : lowered s = lowered t) : Separated s ↔ Separated t := by
  have hsemicolon : ';' ∈ s.toList ↔ ';' ∈ t.toList := by
    rw [← mem_lowered_iff (by decide), h, mem_lowered_iff (by decide)]
  have hcomma : ',' ∈ s.toList ↔ ',' ∈ t.toList := by
    rw [← mem_lowered_iff (by decide), h, mem_lowered_iff (by decide)]
  simp only [Separated, and_or_left, exists_or, exists_eq_right, hsemicolon, hcomma]

theorem parse_of_not_separated (h : ¬ Separated tag) : parse tag = ofList [tag] := by
  rw [parse_eq, entriesOf, List.splitOnP_eq_singleton]
  · rw [List.map_singleton, String.ofList_toList]
  · intro c hc
    rw [← Bool.not_eq_true]
    exact fun hsep ↦ h ⟨c, hc, by simpa using hsep⟩

theorem mem_key_iff (hd : d.toNat ≤ 0x40) (hblank : isBlank d = false) (hsign : d ≠ '@') :
    d ∈ key tag ↔ d ∈ tag.toList := by
  obtain ⟨p, z, hframe, htag, -⟩ := exists_frame (s := tag) rfl
  have hd' : d ∉ p ++ z := fun hmem ↦ by
    rcases hframe d hmem with hb | hat
    · exact Bool.false_ne_true (hblank.symm.trans hb)
    · exact hsign hat
  rw [List.mem_append, not_or] at hd'
  rw [key, Text.mem_fold_iff hd, htag]
  simp [hd'.1, hd'.2]

theorem not_separated_of_mem {e list : String} (he : e ∈ entriesOf list) : ¬ Separated e := by
  rw [entriesOf, List.mem_map] at he
  obtain ⟨piece, hpiece, rfl⟩ := he
  rw [Separated, String.toList_ofList]
  intro hseparated
  obtain ⟨c, hc, hsep⟩ := hseparated
  have hnot := Text.not_of_mem_piece hpiece hc
  rw [Bool.or_eq_false_iff, decide_eq_false_iff_not, decide_eq_false_iff_not] at hnot
  exact hsep.elim hnot.1 hnot.2

theorem separated_iff_key : Separated tag ↔ ∃ c ∈ key tag, c = ';' ∨ c = ',' := by
  simp only [Separated, and_or_left, exists_or, exists_eq_right]
  rw [mem_key_iff (by decide) (by decide) (by decide),
    mem_key_iff (by decide) (by decide) (by decide)]

theorem matchesTag_of_separated (h : Separated tag) (list : String) :
    (parse list).matchesTag tag = false := by
  rw [← Bool.not_eq_true, parse_eq, (collects_ofList _).matchesTag_iff]
  intro hmatches
  obtain ⟨-, e, he, hkey⟩ := hmatches
  rw [separated_iff_key, ← hkey, ← separated_iff_key] at h
  exact not_separated_of_mem he h

/-- Of tags with the same lower case all filters treat those alike that differ in the case of plain
letters at most, and only those. Written lists cannot name tags with a separator in them, so they
treat these alike too. -/
theorem matchesTag_lowered (h : lowered s = lowered t) :
    ((∀ entries, (ofList entries).matchesTag s = (ofList entries).matchesTag t) ↔
        Text.fold s = Text.fold t) ∧
      ((∀ list, (parse list).matchesTag s = (parse list).matchesTag t) ↔
        Text.fold s = Text.fold t ∨ Separated s) ∧
      (Text.fold s = Text.fold t → ∀ f : TagFilter, f.matchesTag s → ∀ tags,
        t ∉ f.visible tags ∧ (t ∈ tags → f.matchesAny tags)) := by
  have halike (hfold : Text.fold s = Text.fold t) (f : TagFilter) :
      f.matchesTag s = f.matchesTag t :=
    Bool.eq_iff_iff.mpr (matchesTag_congr ((key_eq_iff h).mpr hfold))
  refine ⟨⟨fun hall ↦ ?_, fun hfold entries ↦ halike hfold _⟩, ⟨fun hall ↦ ?_, ?_⟩, ?_⟩
  · exact (key_eq_iff h).mp (key_eq_of_alike (hall [s]) (hall [t]))
  · by_cases hs : Separated s
    · exact .inr hs
    · have halike_s := hall s
      have halike_t := hall t
      rw [parse_of_not_separated hs] at halike_s
      rw [parse_of_not_separated (mt (separated_iff h).mpr hs)] at halike_t
      exact .inl ((key_eq_iff h).mp (key_eq_of_alike halike_s halike_t))
  · intro hor list
    rcases hor with hfold | hs
    · exact halike hfold _
    · rw [matchesTag_of_separated hs, matchesTag_of_separated ((separated_iff h).mp hs)]
  · intro hfold f hf tags
    rw [halike hfold] at hf
    refine ⟨fun hvisible ↦ ?_, fun ht ↦ List.any_eq_true.mpr ⟨t, ht, hf⟩⟩
    exact Bool.false_ne_true ((mem_visible.mp hvisible).2.symm.trans hf)

theorem matchesTag_lowered_plain :
    lowered "@Été-Alpha" = lowered "@Été-ALPHA" ∧
      Text.fold "@Été-Alpha" = Text.fold "@Été-ALPHA" ∧
      (∀ entries, (ofList entries).matchesTag "@Été-Alpha" =
        (ofList entries).matchesTag "@Été-ALPHA") ∧
      (∀ list, (parse list).matchesTag "@Été-Alpha" = (parse list).matchesTag "@Été-ALPHA") ∧
      (parse "Été-alpha").matchesTag "@Été-Alpha" ∧
      ∀ tags, "@Été-ALPHA" ∉ (parse "Été-alpha").visible tags ∧
        ("@Été-ALPHA" ∈ tags → (parse "Été-alpha").matchesAny tags) := by
  have hlowered : lowered "@Été-Alpha" = lowered "@Été-ALPHA" := by decide +kernel
  have hfold : Text.fold "@Été-Alpha" = Text.fold "@Été-ALPHA" := by decide +kernel
  have hmatches : (parse "Été-alpha").matchesTag "@Été-Alpha" := by decide +kernel
  obtain ⟨hentries, hlist, hconfigured⟩ := matchesTag_lowered hlowered
  exact ⟨hlowered, hfold, hentries.mpr hfold, hlist.mpr (.inl hfold), hmatches,
    hconfigured hfold _ hmatches⟩

/-- Letters that are not plain must be spelled as they were given. -/
theorem matchesTag_lowered_accent :
    lowered "@été" = lowered "@ÉTÉ" ∧ (parse "été").matchesTag "@été" ∧
      ¬ (parse "été").matchesTag "@ÉTÉ" ∧ (parse "été").visible ["@été", "@ÉTÉ"] = ["@ÉTÉ"] ∧
      ¬ (parse "été").matchesAny ["@ÉTÉ"] := by
  decide +kernel

end TagFilter

end LivingDoc
