import LivingDoc.Proofs.Agreement
import LivingDoc.Proofs.Mirror
import LivingDoc.Source

namespace LivingDoc.Gherkin

open Text

def Step.unplaced (s : Step) : Step := { s with position := .nowhere }

def Background.unplaced (b : Background) : Background :=
  { b with steps := b.steps.map Step.unplaced, position := .nowhere }

def Scenario.unplaced (s : Scenario) : Scenario :=
  { s with steps := s.steps.map Step.unplaced, position := .nowhere }

def Examples.unplaced (e : Examples) : Examples := { e with position := .nowhere }

def Child.unplaced : Child → Child
  | scenario s => scenario s.unplaced
  | outline s examples => outline s.unplaced (examples.map Examples.unplaced)
  | rule name _ => rule name .nowhere

def Feature.unplaced (f : Feature) : Feature where
  name := f.name
  description := f.description
  tags := f.tags
  language := f.language
  background := f.background.map Background.unplaced
  children := f.children.map Child.unplaced
  position := .nowhere

def Step.docStrings (s : Step) : List String :=
  match s.argument with
  | some (.docString text) => [text]
  | _ => []

def Child.docStrings : Child → List String
  | scenario s | outline s _ => s.steps.flatMap Step.docStrings
  | rule _ _ => []

namespace Feature

variable (f f' : Feature)

def docStrings : List String :=
  f.background.toList.flatMap (·.steps.flatMap Step.docStrings) ++
    f.children.flatMap Child.docStrings

/-- How many lines of doc strings consist of a text, white space around it aside. -/
def lineCount (text : String) : Nat :=
  (f.docStrings.flatMap fun s ↦ (lines s.toList).map trim).count text.toList

def Joined (text : String) : Prop := f.lineCount text < f'.lineCount text

end Feature

namespace Raw

theorem Step.docStrings_toStep {s : Step} (hs : s.Orderly) :
    s.toStep.docStrings = s.docStrings := by
  obtain ⟨keyword, text, docString, table, position⟩ := s
  rcases hs.bare with h | h
  · obtain rfl : docString = none := h
    rcases table with _ | _ | _ <;> rfl
  · obtain rfl : table = none := h
    cases docString <;> rfl

theorem docStrings_steps {steps : List Step} (h : ∀ s ∈ steps, s.Orderly) :
    (steps.map Step.toStep).flatMap Gherkin.Step.docStrings = steps.flatMap Step.docStrings := by
  rw [List.flatMap_map]
  exact List.flatMap_congr fun s hs ↦ Step.docStrings_toStep (h s hs)

theorem Scenario.docStrings_toChild {s : Scenario} (hs : s.Orderly) :
    s.toChild.docStrings = s.docStrings := by
  rw [Scenario.toChild]
  split <;> exact docStrings_steps hs.steps

theorem Feature.docStrings_toFeature {f : Feature} (hf : f.Orderly) (language : Option String) :
    (f.toFeature language).docStrings.Perm f.docStrings := by
  have hbackground : (f.background.map Background.toBackground).toList.flatMap
      (·.steps.flatMap Gherkin.Step.docStrings) =
        f.background.toList.flatMap Background.docStrings := by
    cases hb : f.background with
    | none => rfl
    | some b =>
      simp only [Option.map_some, Option.toList_some, List.flatMap_singleton]
      exact docStrings_steps (hf.background b hb).steps
  have hscenarios : (f.scenarios.map Scenario.toChild).flatMap Child.docStrings =
      f.scenarios.flatMap Scenario.docStrings := by
    rw [List.flatMap_map]
    exact List.flatMap_congr fun s hs ↦ Scenario.docStrings_toChild (hf.scenarios s hs)
  have hchildren : f.children.Perm (f.scenarios.map Scenario.toChild) := by
    rw [Feature.children, hf.rules, List.map_nil, List.append_nil]
    exact List.mergeSort_perm _ _
  rw [Gherkin.Feature.docStrings, Feature.docStrings, ← hbackground, ← hscenarios]
  exact (hchildren.flatMap_right _).append_left _

end Raw

theorem Feature.docStrings_unplaced (f : Feature) : f.unplaced.docStrings = f.docStrings := by
  have hsteps (steps : List Step) :
      (steps.map Step.unplaced).flatMap Step.docStrings = steps.flatMap Step.docStrings := by
    rw [List.flatMap_map]
    rfl
  have hchild (c : Child) : c.unplaced.docStrings = c.docStrings := by
    cases c with
    | scenario s => exact hsteps s.steps
    | outline s _ => exact hsteps s.steps
    | rule _ _ => rfl
  rw [docStrings, docStrings, unplaced]
  dsimp only
  rw [List.flatMap_map, funext hchild]
  cases f.background with
  | none => rfl
  | some b => simp [Background.unplaced, hsteps]

namespace Document

/-- Fences stand first on their lines in a text, and enclose its doc strings. -/
def Orderly (s : String) (g : Parser := Grammar.parser) : Prop :=
  ∀ f ∈ g.parse? ((Header.ofText? (endLine s.toList)).map Header.code) (endLine s.toList), f.Orderly

instance (s : String) (g : Parser) : Decidable (Orderly s g) :=
  inferInstanceAs (Decidable (∀ f ∈ g.parse? _ _, f.Orderly))

theorem parse_eq_ok {g : Parser} {s : String} {doc : Document} (h : parse s g = .ok doc) :
    ∃ f, g.parse? ((Header.ofText? (endLine s.toList)).map Header.code)
      (endLine s.toList) = some f ∧
      doc.feature = f.toFeature ((Header.ofText? (endLine s.toList)).map Header.code) ∧
      doc.comments = Comment.ofText ((Header.ofText? (endLine s.toList)).map Header.line)
        (endLine s.toList) := by
  rw [parse] at h
  split at h
  · cases h
  · split at h
    · cases h
    · next f hf =>
      obtain rfl := Except.ok.inj h
      exact ⟨f, hf, rfl, rfl⟩

/-- The comments of a document where `new` ones are put in below the first `n` lines, and the lines
below stand one further down. -/
def inserted (n : Nat) (new : List Comment) (doc : Document) : List Comment :=
  doc.comments.filter (·.position.line ≤ n) ++
    (new ++ (doc.comments.filter (n < ·.position.line)).map Comment.down)

end Document

namespace Document

theorem ofText_insert {a w t b : List Char} (ha : Whole a) (hw : Space w) (ht : '\n' ∉ t)
    (hcode : Header.code? (dropReturn (w ++ '#' :: t)) = none) {doc doc' : Document}
    (h : doc.comments = Comment.ofText ((Header.ofText? (a ++ b)).map Header.line) (a ++ b))
    (h' : doc'.comments = Comment.ofText ((Header.ofText? (a ++ (w ++ '#' :: t ++ ['\n']) ++ b)).map
      Header.line) (a ++ (w ++ '#' :: t ++ ['\n']) ++ b)) :
    doc'.comments = doc.inserted (lines a).length (if Comment.fenceBelow none (lines a) = none then
      [⟨.ofList (trim (w ++ '#' :: t ++ ['\n'])),
        ⟨(lines a).length + 1, w.length + 1⟩⟩] else []) := by
  have hp : '\n' ∉ w ++ '#' :: t := by simp [hw.1, ht]
  have hdrop : dropReturn (w ++ '#' :: t) = w ++ '#' :: dropReturn t := by
    rw [dropReturn_append (List.cons_ne_nil _ _), dropReturn_cons (.inl (by decide))]
  have hhash : trimStart (dropReturn (w ++ '#' :: t)) = '#' :: dropReturn t := by
    rw [hdrop, trimStart_of_all hw.2, trimStart_cons (by decide)]
  have hmay : Header.mayPrecede (dropReturn (w ++ '#' :: t)) :=
    hdrop ▸ Header.mayPrecede_append hw.2 _
  have hheader : Header.ofText? (a ++ (w ++ '#' :: t ++ ['\n']) ++ b) =
      (Header.ofText? (a ++ b)).map (Header.moved (lines a).length) := by
    rw [Header.ofText?, Header.ofText?, lines_insert ha hp, lines_append ha,
      Header.among_insert hmay hcode _ (Nat.add_comm 1 _)]
  have htext : trim (w ++ '#' :: t ++ ['\n']) = trimEnd ('#' :: dropReturn t) := by
    obtain ⟨x, hx, htx⟩ := eq_dropReturn_append t
    have hxn : (x ++ ['\n']).all Unicode.isBlank := by
      rw [List.all_append, hx]
      decide
    rw [trim, List.append_assoc, trimStart_of_all hw.2, List.cons_append,
      trimStart_cons (by decide)]
    conv_lhs => rw [htx]
    rw [List.append_assoc, ← List.cons_append, trimEnd_append_blank hxn]
  rw [Comment.ofText, lines_append ha] at h
  rw [h', Comment.ofText, hheader, lines_insert ha hp, Comment.among_insert _ hhash rfl h, hdrop,
    Comment.ofLine?_append hw.2, htext]
  rfl

end Document

section

variable {a p l b : List Char} (ha : Whole a) (hp : '\n' ∉ p) (hl : trimStart p = '#' :: l)
include ha hp hl

theorem Track.feed_insert : start.feed (a ++ (p ++ ['\n']) ++ b) =
    Track.feed { start.feed a with
      block := (start.feed a).block.map fun block ↦ (block.1, block.2 ++ (p ++ ['\n'])) } b := by
  rw [List.append_assoc, feed_append start a, feed_append _ (p ++ ['\n']),
    feed_hash hp hl (feed_start ha).1 (mem_fence_start ha)]

theorem Track.feed_insert_of_closed (hfence : Comment.fenceBelow none (lines a) = none) :
    start.feed (a ++ (p ++ ['\n']) ++ b) = start.feed (a ++ b) := by
  have hblock : (start.feed a).block = none :=
    Option.map_eq_none_iff.mp ((feed_start ha).2.trans hfence)
  rw [feed_insert ha hp hl, feed_append start a b, hblock, Option.map_none, ← hblock]

theorem Track.feed_insert_of_open (hfence : Comment.fenceBelow none (lines a) ≠ none) :
    Longer (start.feed (a ++ b)) (start.feed (a ++ (p ++ ['\n']) ++ b)) := by
  have hblock : (start.feed a).block ≠ none := fun h ↦
    hfence ((feed_start ha).2.symm.trans (Option.map_eq_none_iff.mpr h))
  rw [feed_insert ha hp hl, feed_append start a b]
  refine Longer.feed ?_ b
  obtain ⟨block, hblock⟩ := Option.ne_none_iff_exists'.mp hblock
  refine ⟨rfl, by simp [fence, hblock], ?_⟩
  have hcount : (p ++ ['\n']).count '\n' = 1 := by
    rw [List.count_append, List.count_eq_zero.mpr hp]
    rfl
  simp only [total, hblock, Option.map_some, Option.getD_some, List.count_append] at hcount ⊢
  omega

end

namespace Feature

variable {f f' : Feature}

theorem lineCount_congr (h : f.docStrings.Perm f'.docStrings) (text : String) :
    f.lineCount text = f'.lineCount text :=
  (h.flatMap_right _).count_eq _

end Feature

namespace Document

/-- A comment `c` that is put in below the first `n` lines is one more comment where the tree does
not show it, and none where it becomes a line of a doc string. -/
structure Told (n : Nat) (c : Comment) (doc doc' : Document) : Prop where
  passed : doc'.feature.unplaced = doc.feature.unplaced → doc'.comments = doc.inserted n [c]
  joined : doc.feature.Joined doc'.feature c.text → doc'.comments = doc.inserted n []

/-- The search for comments has no fence open where the grammar passes a comment over, and has one
open where the comment becomes a line of a doc string. -/
structure Agrees (l : List (List Char)) (text : String) (doc doc' : Document) : Prop where
  passed : doc'.feature.unplaced = doc.feature.unplaced → Comment.fenceBelow none l = none
  joined : doc.feature.Joined doc'.feature text → Comment.fenceBelow none l ≠ none

variable {n : Nat} {c : Comment} {doc doc' : Document}

theorem length_inserted (new : List Comment) :
    (doc.inserted n new).length = (doc.inserted n []).length + new.length := by
  simp only [inserted, List.length_append, List.length_nil]
  omega

theorem told_iff {l : List (List Char)}
    (h : doc'.comments = doc.inserted n (if Comment.fenceBelow none l = none then [c] else [])) :
    Told n c doc doc' ↔ Agrees l c.text doc doc' := by
  have hne : doc.inserted n [c] ≠ doc.inserted n [] := fun h ↦ by
    have := @length_inserted n doc [c]
    rw [h, List.length_singleton] at this
    omega
  split at h
  · next hfence =>
    refine ⟨fun ht ↦ ⟨fun _ ↦ hfence, fun hj ↦ absurd (h.symm.trans (ht.joined hj)) hne⟩,
      fun ha ↦ ⟨fun _ ↦ h, fun hj ↦ absurd hfence (ha.joined hj)⟩⟩
  · next hfence =>
    refine ⟨fun ht ↦ ⟨fun hu ↦ absurd ((ht.passed hu).symm.trans h) hne, fun _ ↦ hfence⟩,
      fun ha ↦ ⟨fun hu ↦ absurd (ha.passed hu) hfence, fun _ ↦ h⟩⟩

/-- A text with lines put in is completed like the text without them, as far as its comments and its
fences are concerned. -/
theorem exists_completed {a k : List Char} (ha : Whole a) (hk : Whole k) (hne : k ≠ [])
    (b : List Char) : ∃ b', endLine (a ++ k ++ b) = a ++ k ++ b' ∧
      Comment.ofText ((Header.ofText? (endLine (a ++ b))).map Header.line) (endLine (a ++ b)) =
        Comment.ofText ((Header.ofText? (a ++ b')).map Header.line) (a ++ b') ∧
      Track.start.feed (endLine (a ++ b)) = Track.start.feed (a ++ b') := by
  obtain ⟨b', hb', hb⟩ := endLine_insert ha hk hne b
  refine ⟨b', hb', ?_⟩
  rcases hb with hb | ⟨hb, hnil⟩
  · rw [hb]
    exact ⟨rfl, rfl⟩
  · rw [hb, hnil]
    exact ⟨rfl, rfl⟩

/-- A comment below an open fence would lengthen a doc string by a line, and one where no fence is
open adds no line to any. -/
theorem agrees_of_encloses {g : Parser} {flush : List Char → String} (hg : g.Encloses flush)
    {code code' : Option String} {f f' : Raw.Feature} {a b l l' w t : List Char} {text : String}
    (hl : Whole l) (hl' : Whole l') (hf : g.parse? code l = some f)
    (hf' : g.parse? code' l' = some f') (ho : f.Orderly) (ho' : f'.Orderly)
    (hfeature : doc.feature = f.toFeature code) (hfeature' : doc'.feature = f'.toFeature code')
    (ha : Whole a) (hw : Space w) (ht : '\n' ∉ t)
    (hfeed : Track.start.feed l = Track.start.feed (a ++ b))
    (hfeed' : Track.start.feed l' = Track.start.feed (a ++ (w ++ '#' :: t ++ ['\n']) ++ b)) :
    Agrees (lines a) text doc doc' := by
  have hp : '\n' ∉ w ++ '#' :: t := by simp [hw.1, ht]
  have hhash : trimStart (w ++ '#' :: t) = '#' :: t := by
    rw [trimStart_of_all hw.2, trimStart_cons (by decide)]
  have hperm : doc.feature.docStrings.Perm f.docStrings :=
    hfeature ▸ Raw.Feature.docStrings_toFeature ho _
  have hperm' : doc'.feature.docStrings.Perm f'.docStrings :=
    hfeature' ▸ Raw.Feature.docStrings_toFeature ho' _
  constructor
  · intro hunplaced
    by_contra hfence
    have hlonger := Track.feed_insert_of_open ha hp hhash (b := b) hfence
    rw [← hfeed, ← hfeed'] at hlonger
    have hsum := hg.count_docStrings hl hl' hf hf' ho ho' hlonger
    have hsame : doc'.feature.docStrings = doc.feature.docStrings := by
      rw [← Feature.docStrings_unplaced, hunplaced, Feature.docStrings_unplaced]
    have hcount := (hperm.flatMap_right String.toList).count_eq '\n'
    have hcount' := (hperm'.flatMap_right String.toList).count_eq '\n'
    rw [hsame] at hcount'
    omega
  · intro hjoined hfence
    have hsame := hg.docStrings_congr hl hl' hf hf' ho ho'
      (hfeed'.trans ((Track.feed_insert_of_closed ha hp hhash hfence).trans hfeed.symm))
    have hcount := Feature.lineCount_congr (hperm.trans (hsame ▸ hperm'.symm)) text
    exact Nat.ne_of_lt hjoined hcount

/-- One more line that begins with a number sign and is no header: whatever the parser, the comments
of the document tell what it makes of the line exactly if the open fence is the parser's. That is so
in texts whose fences stand first on their lines, if the parser reads doc strings between fences. -/
theorem parse_insert {g : Parser} {a k b : String} {w t : List Char}
    (ha : a.toList = [] ∨ a.toList.getLast? = some '\n') (hw : Space w) (ht : '\n' ∉ t)
    (hk : k.toList = w ++ '#' :: t ++ ['\n'])
    (hcode : ∀ line ∈ lines k.toList, Header.code? line = none)
    (h : parse (a ++ b) g = .ok doc) (h' : parse (a ++ k ++ b) g = .ok doc') :
    (Told (lines a.toList).length
        ⟨trimmed k, ⟨(lines a.toList).length + 1, w.length + 1⟩⟩ doc doc' ↔
      Agrees (lines a.toList) (trimmed k) doc doc') ∧
    ∀ flush, g.Encloses flush → Orderly (a ++ b) g → Orderly (a ++ k ++ b) g →
      Told (lines a.toList).length ⟨trimmed k, ⟨(lines a.toList).length + 1, w.length + 1⟩⟩ doc
        doc' := by
  have ha : Whole a.toList := whole_iff.mpr ha
  have hp : '\n' ∉ w ++ '#' :: t := by simp [hw.1, ht]
  have hwhole : Whole k.toList := hk ▸ .line hp .nil
  have hcode : Header.code? (dropReturn (w ++ '#' :: t)) = none := by
    refine hcode _ ?_
    rw [hk, lines_line hp]
    exact List.mem_cons_self
  obtain ⟨b', hb', hsame, hfeed⟩ := exists_completed ha hwhole (by simp [hk]) b.toList
  obtain ⟨f, hf, hfeature, hcomments⟩ := parse_eq_ok h
  obtain ⟨f', hf', hfeature', hcomments'⟩ := parse_eq_ok h'
  rw [String.toList_append, hsame] at hcomments
  rw [String.toList_append, String.toList_append, hb', hk] at hcomments'
  have hins := ofText_insert ha hw ht hcode hcomments hcomments'
  rw [← hk] at hins
  refine ⟨told_iff hins, fun flush hg ho ho' ↦ (told_iff hins).mpr ?_⟩
  rw [← String.toList_append] at hfeed
  have hfeed' : Track.start.feed (endLine (a ++ k ++ b).toList) =
      Track.start.feed (a.toList ++ (w ++ '#' :: t ++ ['\n']) ++ b') := by
    rw [String.toList_append, String.toList_append, hb', hk]
  exact agrees_of_encloses hg (endLine_whole _) (endLine_whole _) hf hf' (ho f hf) (ho' f' hf')
    hfeature hfeature' ha hw ht hfeed hfeed'

theorem exists_of_isOk {ε α : Type} {e : Except ε α} (h : e.isOk) : ∃ a, e = .ok a := by
  cases e with
  | error _ => cases h
  | ok a => exact ⟨a, rfl⟩

theorem parse_insert_note : ∃ doc doc' : Document,
    parse ("Feature: Doors\n# who\nScenario: Open\nGiven a note\n" ++
      "\"\"\"\n# text\n\"\"\"\nThen done\n") = .ok doc ∧
    parse ("Feature: Doors\n# who\nScenario: Open\nGiven a note\n" ++ "  # why\n" ++
      "\"\"\"\n# text\n\"\"\"\nThen done\n") = .ok doc' ∧
    doc'.feature.unplaced = doc.feature.unplaced ∧
    doc'.comments = doc.inserted 4 [⟨"# why", ⟨5, 3⟩⟩] := by
  obtain ⟨doc, h⟩ : ∃ doc, parse ("Feature: Doors\n# who\nScenario: Open\nGiven a note\n" ++
      "\"\"\"\n# text\n\"\"\"\nThen done\n") = .ok doc := exists_of_isOk (by decide +kernel)
  obtain ⟨doc', h'⟩ : ∃ doc, parse ("Feature: Doors\n# who\nScenario: Open\nGiven a note\n" ++
      "  # why\n" ++ "\"\"\"\n# text\n\"\"\"\nThen done\n") = .ok doc :=
    exists_of_isOk (by decide +kernel)
  have hunplaced : (parse ("Feature: Doors\n# who\nScenario: Open\nGiven a note\n" ++ "  # why\n" ++
        "\"\"\"\n# text\n\"\"\"\nThen done\n")).toOption.map (·.feature.unplaced) =
      (parse ("Feature: Doors\n# who\nScenario: Open\nGiven a note\n" ++
        "\"\"\"\n# text\n\"\"\"\nThen done\n")).toOption.map (·.feature.unplaced) := by
      decide +kernel
  rw [h, h'] at hunplaced
  have hunplaced : doc'.feature.unplaced = doc.feature.unplaced := Option.some.inj hunplaced
  have htold :=
    (parse_insert (w := [' ', ' ']) (t := [' ', 'w', 'h', 'y']) (.inr (by decide +kernel))
    (by decide +kernel) (by decide +kernel) (by decide +kernel) (by decide +kernel) h h').2 _
    Grammar.encloses (by decide +kernel) (by decide +kernel)
  exact ⟨doc, doc', h, h', hunplaced, htold.passed hunplaced⟩

theorem parse_eq_of_toOption {s : String} (h : (parse s).toOption = some doc) :
    parse s = .ok doc := by
  cases hs : parse s with
  | error e => simp [hs, Except.toOption] at h
  | ok doc' =>
    rw [hs] at h
    exact congrArg _ (Option.some.inj h)

/-- A fence in a description hides the comments below it, although no doc string is open there. -/
theorem parse_insert_description : ∃ doc doc' : Document,
    parse ("Feature: f\n\"\"\"\n" ++ "") = .ok doc ∧
      parse ("Feature: f\n\"\"\"\n" ++ "# note\n" ++ "") = .ok doc' ∧
      doc'.feature.unplaced = doc.feature.unplaced ∧
      doc'.comments ≠ doc.inserted 2 [⟨"# note", ⟨3, 1⟩⟩] := by
  refine ⟨⟨⟨"f", some "\"\"\"", [], none, none, [], ⟨1, 1⟩⟩, []⟩,
    ⟨⟨"f", some "\"\"\"", [], none, none, [], ⟨1, 1⟩⟩, []⟩, parse_eq_of_toOption ?_,
    parse_eq_of_toOption ?_, rfl, by decide⟩ <;> decide +kernel

end Document

end LivingDoc.Gherkin
