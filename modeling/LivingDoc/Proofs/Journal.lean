import LivingDoc.Event.Journal
import LivingDoc.Proofs.Lines
import Mathlib.Data.List.Basic

namespace LivingDoc

namespace Text

variable {a l r : List Char}

theorem byteLength_append : byteLength (l ++ r) = byteLength l + byteLength r := by
  induction l with
  | nil => simp [byteLength]
  | cons c l ih => rw [List.cons_append, byteLength, byteLength, ih, Nat.add_assoc]

theorem dropBytes_append : dropBytes (byteLength l) (l ++ r) = r := by
  induction l with
  | nil => cases r <;> simp [dropBytes, byteLength]
  | cons c l ih =>
    have hc := c.utf8Size_pos
    simpa [dropBytes, byteLength, Nat.ne_of_gt hc] using ih

theorem takeBytes_append : takeBytes (byteLength l) (l ++ r) = l := by
  induction l with
  | nil => cases r <;> simp [takeBytes, byteLength]
  | cons c l ih =>
    have hc := c.utf8Size_pos
    simpa [takeBytes, byteLength, Nat.ne_of_gt hc] using ih

end Text

namespace Directive

variable {a r s target word : List Char} {least : Option Severity}

theorem tail_append (h : Text.trim (a ++ r) = a ++ r) : tail (a ++ r) r = r := by
  rw [tail, h, Text.byteLength_append, Nat.add_sub_cancel, Text.dropBytes_append]

theorem part_append (h : Text.trim (a ++ s) = a ++ s) : part (a ++ s) (a ++ s) s = a := by
  have htail : tail (a ++ s) (a ++ s) = a ++ s := tail_append (a := []) h
  rw [part, htail, Text.byteLength_append, Nat.add_sub_cancel, Text.takeBytes_append]

theorem level_eq (h : Text.trim (target ++ '=' :: word) = target ++ '=' :: word)
    (hword : least? word = some least) :
    level (target ++ '=' :: word) ('=' :: word) = .ok least := by
  have htail : tail (target ++ '=' :: word) word = word := by
    rw [List.append_cons] at h ⊢
    exact tail_append h
  cases word with
  | nil =>
    rw [show least? [] = none by decide] at hword
    cases hword
  | cons c word =>
    rw [level, htail]
    simp only [hword, Option.elim_some]

/-- A directive such as `featuredoc=trace`: the target, and the least severity of its events. -/
theorem parse_target (hopens : target.head?.any opens) (htarget : ∀ c ∈ target, c ≠ '=' ∧ c ≠ '[')
    (htrim : Text.trim (target ++ '=' :: word) = target ++ '=' :: word)
    (hword : least? word = some least) :
    parse (target ++ '=' :: word) = .ok ⟨target, .everything, least⟩ := by
  have hdrop : (target ++ '=' :: word).dropWhile (fun c ↦ c ≠ '=' && c ≠ '[') = '=' :: word := by
    rw [List.dropWhile_append_of_pos (by simpa using htarget), List.dropWhile_cons_of_neg (by simp)]
  have hhead : (target ++ '=' :: word).head?.any opens := by
    cases target with
    | nil => cases hopens
    | cons c target => exact hopens
  rw [parse, htrim, hdrop, hhead, part_append htrim, level_eq htrim hword]
  rfl

end Directive

namespace Journal

variable {b d : Directive} {e : Event} {j : Journal} {least other : Severity} {s : String}
variable {read : List Char → Except DirectiveError Directive}

theorem length_le_of_replaces (h : d.replaces b) : b.target.length ≤ d.target.length := by
  simp only [Directive.replaces, Bool.or_eq_true, Bool.and_eq_true, decide_eq_true_eq] at h
  omega

theorem length_le_of_not_replaces (h : ¬ d.replaces b) : d.target.length ≤ b.target.length := by
  simp only [Directive.replaces, Bool.or_eq_true, decide_eq_true_eq, not_or] at h
  omega

theorem foldl_prefer (ds : List Directive) (b : Directive) : ∃ d,
    ds.foldl prefer (some b) = some d ∧ d ∈ b :: ds ∧
      ∀ a ∈ b :: ds, a.target.length ≤ d.target.length := by
  induction ds generalizing b with
  | nil => exact ⟨b, rfl, List.mem_cons_self, List.forall_mem_singleton.mpr (Nat.le_refl _)⟩
  | cons a ds ih =>
    rw [List.foldl_cons]
    by_cases ha : a.replaces b
    · obtain ⟨d, hd, hmem, hmax⟩ := ih a
      have hba := length_le_of_replaces ha
      refine ⟨d, by rwa [prefer, Option.all_some, if_pos ha], List.mem_cons_of_mem b hmem, ?_⟩
      exact List.forall_mem_cons.mpr ⟨hba.trans (hmax a List.mem_cons_self), hmax⟩
    · obtain ⟨d, hd, hmem, hmax⟩ := ih b
      have hab := length_le_of_not_replaces ha
      refine ⟨d, by rwa [prefer, Option.all_some, if_neg ha], ?_, ?_⟩
      · rcases List.mem_cons.mp hmem with rfl | hmem
        · exact List.mem_cons_self
        · exact List.mem_cons_of_mem _ (List.mem_cons_of_mem _ hmem)
      · obtain ⟨hb, hds⟩ := List.forall_mem_cons.mp hmax
        exact List.forall_mem_cons.mpr ⟨hb, List.forall_mem_cons.mpr ⟨hab.trans hb, hds⟩⟩

/-- The directive that decides on an event is one that speaks of it, and of these none has a longer
target. There is one unless none speaks of the event. -/
theorem deciding_longest (j : Journal) (e : Event) :
    (∀ d ∈ j.deciding e, (d ∈ j.directives ∧ d.concerns e) ∧
      ∀ b ∈ j.directives, b.concerns e → b.target.length ≤ d.target.length) ∧
    (j.deciding e = none ↔ ∀ d ∈ j.directives, ¬ d.concerns e) := by
  rw [deciding]
  cases hds : j.directives.filter (·.concerns e) with
  | nil => exact ⟨nofun, iff_of_true rfl (List.filter_eq_nil_iff.mp hds)⟩
  | cons b ds =>
    obtain ⟨d, hd, hmem, hmax⟩ := foldl_prefer ds b
    rw [← hds] at hmem hmax
    rw [List.foldl_cons, prefer, Option.all_none, if_pos rfl, hd]
    refine ⟨fun c hc ↦ ?_, iff_of_false nofun fun hnone ↦ ?_⟩
    · obtain rfl := Option.some.inj hc
      exact ⟨List.mem_filter.mp hmem, fun b hb he ↦ hmax b (List.mem_filter.mpr ⟨hb, he⟩)⟩
    · exact hnone d (List.mem_filter.mp hmem).1 (List.mem_filter.mp hmem).2

/-- A text between two commas that asks for something. -/
def Asks (s : String) (l : List Char) : Prop := l ∈ Text.pieces (· = ',') s.toList ∧ l ≠ []

def followed (s : String) (read : List Char → Except DirectiveError Directive) : List Directive :=
  ((Text.pieces (· = ',') s.toList).filter fun l ↦ !l.isEmpty).filterMap fun l ↦ (read l).toOption

theorem mem_followed : d ∈ followed s read ↔ ∃ l, Asks s l ∧ read l = .ok d := by
  have hread (l : List Char) : (read l).toOption = some d ↔ read l = .ok d := by
    cases read l <;> simp [Except.toOption]
  simp only [followed, List.mem_filterMap, List.mem_filter, Bool.not_eq_true',
    List.isEmpty_eq_false_iff, hread, Asks]

theorem directives_ofText : (ofText least s read).directives =
    if (followed s read).isEmpty then [⟨[], .everything, some least⟩] else followed s read := rfl

/-- A journal that can follow no directive holds the events of at least the given severity. -/
theorem holds_ofText (h : ∀ l d, Asks s l → read l ≠ .ok d) :
    (ofText least s read).holds e ↔ e.severity.rank ≤ least.rank := by
  have hnone : followed s read = [] := List.eq_nil_iff_forall_not_mem.mpr fun d hd ↦ by
    obtain ⟨l, hl, hread⟩ := mem_followed.mp hd
    exact h l d hl hread
  have hdirectives : (ofText least s read).directives = [⟨[], .everything, some least⟩] := by
    rw [directives_ofText, hnone]
    rfl
  rw [holds, deciding, hdirectives]
  simp [Directive.concerns, prefer, Directive.admits]

theorem ofText_eq {l : List Char} (hl : Asks s l) (hread : read l = .ok d) :
    ofText least s read = ofText other s read := by
  have hmem : d ∈ followed s read := mem_followed.mpr ⟨l, hl, hread⟩
  have hsome : (followed s read).isEmpty = false :=
    List.isEmpty_eq_false_iff.mpr (List.ne_nil_of_mem hmem)
  have hdirectives (least : Severity) : (ofText least s read).directives = followed s read := by
    rw [directives_ofText, hsome, if_neg Bool.false_ne_true]
  rw [mk.injEq, hdirectives, hdirectives]
  exact ⟨rfl, rfl⟩

end Journal

end LivingDoc
