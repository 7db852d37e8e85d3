import LivingDoc.Proofs.Passes
import LivingDoc.Publisher

namespace LivingDoc

/-- What is done while events are told; those told before a refusal stay told. -/
abbrev Telling := ExceptT DraftError (StateM (List Event))

namespace Telling

def tell (e : Event) : Telling Unit := modify (· ++ [e])

variable {α β σ : Type} {x : Telling α} {f : α → Telling β} {a : α} {b : β} {l m : List Event}

/-- Something is done with a result, and these events are told on the way. -/
def Does (x : Telling α) (a : α) (l : List Event) : Prop := ∀ log, x.run.run log = (.ok a, log ++ l)

namespace Does

theorem pure (a : α) : Does (Pure.pure a) a [] := fun log ↦ by
  rw [List.append_nil]
  rfl

theorem tell (e : Event) : Does (Telling.tell e) () [e] := fun _ ↦ rfl

theorem bind (h : Does x a l) (hf : Does (f a) b m) : Does (x >>= f) b (l ++ m) := by
  intro log
  have hx : (x >>= f).run.run log = (f a).run.run (log ++ l) := by
    rw [ExceptT.run_bind, StateT.run_bind, h]
    rfl
  rw [hx, hf, List.append_assoc]

theorem tell_bind {e : Event} {x : Telling β} (h : Does x b m) :
    Does (do Telling.tell e; x) b (e :: m) := (tell e).bind h

theorem lift_bind {y : Except DraftError α} (hy : y = .ok a) (h : Does (f a) b m) :
    Does (liftM y >>= f) b m := by
  subst hy
  exact (pure a).bind h

theorem foldlM {f : σ → α → Telling σ} (s : List α → σ) (tells : α → List Event) (as : List α)
    (h : ∀ bs a, bs ++ [a] <+: as → Does (f (s bs) a) (s (bs ++ [a])) (tells a)) :
    Does (as.foldlM f (s [])) (s as) (as.flatMap tells) := by
  induction as using List.reverseRecOn with
  | nil => exact .pure _
  | append_singleton as a ih =>
    rw [List.foldlM_append, List.flatMap_append]
    refine (ih fun bs a hbs ↦ h bs a (hbs.trans (List.prefix_append _ _))).bind ?_
    simpa using h as a List.prefix_rfl

end Does

end Telling

open Telling

def lastIdx? {α : Type} (p : α → Bool) (l : List α) : Option Nat :=
  (l.zipIdx.reverse.find? fun a ↦ p a.1).map Prod.snd

section

variable {α : Type} {p : α → Bool} {l : List α} {i : Nat}

theorem lastIdx?_concat (p : α → Bool) (l : List α) (a : α) :
    lastIdx? p (l ++ [a]) = if p a then some l.length else lastIdx? p l := by
  rw [lastIdx?, List.zipIdx_append, List.reverse_append]
  by_cases h : p a <;> simp [h, lastIdx?]

theorem lastIdx?_cons (p : α → Bool) (a : α) (l : List α) : lastIdx? p (a :: l) =
    match lastIdx? p l with
    | some i => some (i + 1)
    | none => if p a then some 0 else none := by
  induction l using List.reverseRecOn with
  | nil => by_cases h : p a <;> simp [h, lastIdx?]
  | append_singleton l b ih =>
    rw [← List.cons_append, lastIdx?_concat, lastIdx?_concat]
    split
    · rfl
    · exact ih

theorem lt_of_lastIdx? (h : lastIdx? p l = some i) : i < l.length := by
  induction l using List.reverseRecOn with
  | nil => cases h
  | append_singleton l a ih =>
    rw [List.length_append, List.length_singleton]
    rw [lastIdx?_concat] at h
    split at h
    · obtain rfl := Option.some.inj h
      exact Nat.lt_succ_self _
    · exact Nat.lt_succ_of_lt (ih h)

theorem lastIdx?_filter (p : α → Bool) (l : List α) :
    (lastIdx? p l).filter (· + 1 = l.length) =
      if l.getLast?.any p then some (l.length - 1) else none := by
  induction l using List.reverseRecOn with
  | nil => rfl
  | append_singleton l a ih =>
    rw [lastIdx?_concat, List.getLast?_concat, Option.any_some]
    split
    · simp
    · rw [Option.filter_eq_none_iff]
      intro i hi
      have := lt_of_lastIdx? hi
      simp
      omega

end

namespace Site

variable {l : List Section} {s : Section} {line i : Nat}

theorem owner_eq_lastIdx? (l : List Section) (line : Nat) :
    owner l line = lastIdx? (·.position.line < line) l := by
  induction l with
  | nil => rfl
  | cons s l ih =>
    rw [owner, lastIdx?_cons, ih]
    cases lastIdx? (fun s : Section ↦ decide (s.position.line < line)) l <;> simp

theorem locate_of_owner (ho : owner l line = some i) (hs : l[i]? = some s) :
    locate l line = match among s.steps line with
      | .step _ j role => .step i j role
      | .aboveSections | .withoutStep => .withoutStep := by
  cases ha : among s.steps line with
  | step k j role =>
    obtain rfl := eq_zero_of_among ha
    exact locate_eq_step.mpr ⟨ho, s, hs, ha⟩
  | aboveSections => exact absurd ha among_ne_above
  | withoutStep =>
    cases hl : locate l line with
    | step k j role =>
      obtain ⟨hk, t, ht, hstep⟩ := locate_eq_step.mp hl
      obtain rfl := Option.some.inj (ho.symm.trans hk)
      obtain rfl := Option.some.inj (hs.symm.trans ht)
      rw [ha] at hstep
      cases hstep
    | aboveSections =>
      rw [locate_eq_above.mp hl] at ho
      cases ho
    | withoutStep => rfl

end Site

namespace Commentary

variable (c : Commentary)

def push (i j : Nat) (r : Remark) : Commentary where
  sections := c.sections.modify i fun s ↦
    { s with steps := s.steps.modify j fun t ↦ { t with remarks := t.remarks ++ [r] } }
  remarks := c.remarks ++ [r]

def pass (r : Remark) : Commentary := ⟨c.sections, c.remarks ++ [r]⟩

/-- The next remark is put on its step: in the last section above it the first step below it, or
else the last step, if that is above it. -/
def associate (r : Remark) : Telling Commentary :=
  let line := r.position.line
  match lastIdx? (·.position.line < line) c.sections with
  | none => do
    tell (.remarkAboveSections line)
    return c.pass r
  | some i =>
    let steps := (c.sections[i]?.map Section.steps).getD []
    match steps.findIdx? (line < ·.position.line) with
    | some j => return c.push i j { r with role := .beforeStep }
    | none =>
      match (lastIdx? (·.position.line < line) steps).filter (· + 1 = steps.length) with
      | some j => return c.push i j { r with role := .afterLastStep }
      | none => do
        tell (.remarkWithoutStep line)
        return c.pass r

def take (q : Placed) : Commentary := ⟨Placed.attach [q] c.sections, c.remarks ++ [q.remark]⟩

theorem on_singleton (q : Placed) (i j : Nat) :
    Placed.on [q] i j = if q.site.isStep i j then [q.remark] else [] := by
  rw [Placed.on, List.filter_singleton]
  cases q.site.isStep i j <;> rfl

theorem on_append (qs rs : List Placed) (i j : Nat) :
    Placed.on (qs ++ rs) i j = Placed.on qs i j ++ Placed.on rs i j := by
  rw [Placed.on, List.filter_append, List.map_append]
  rfl

theorem mapIdx_eq_self {α : Type} {f : Nat → α → α} (h : ∀ i a, f i a = a) (l : List α) :
    l.mapIdx f = l := by
  refine List.ext_getElem? fun i ↦ ?_
  rw [List.getElem?_mapIdx, funext (h i)]
  exact Option.map_id'

/-- Remarks that are on no step leave the sections as they are. -/
theorem attach_eq_self {qs : List Placed} (h : ∀ i j, Placed.on qs i j = []) (l : List Section) :
    Placed.attach qs l = l := by
  refine mapIdx_eq_self (fun i s ↦ ?_) l
  rw [mapIdx_eq_self (fun j t ↦ ?_) s.steps]
  rw [h, List.append_nil]

theorem push_eq_take (i j : Nat) (r : Remark) (role : Role) :
    c.push i j r = c.take ⟨r, .step i j role⟩ := by
  refine congrArg (Commentary.mk · _) (List.ext_getElem? fun k ↦ ?_)
  rw [List.getElem?_modify, Placed.attach, List.getElem?_mapIdx]
  refine Option.map_congr fun s _ ↦ ?_
  have hsteps : (if i = k then s.steps.modify j fun t ↦ { t with remarks := t.remarks ++ [r] }
      else s.steps) = s.steps.mapIdx fun m t ↦
        { t with remarks := t.remarks ++ Placed.on [⟨r, .step i j role⟩] k m } := by
    refine List.ext_getElem? fun m ↦ ?_
    rw [List.getElem?_mapIdx]
    by_cases hik : i = k
    · rw [if_pos hik, List.getElem?_modify]
      refine Option.map_congr fun t _ ↦ ?_
      by_cases hjm : j = m
      · simp [on_singleton, Site.isStep, hik, hjm]
      · simp [on_singleton, Site.isStep, hjm, Ne.symm hjm]
    · rw [if_neg hik]
      simp [on_singleton, Site.isStep, Ne.symm hik]
  rw [← hsteps]
  split <;> rfl

theorem pass_eq_take (site : Site) (h : site.role? = none) (r : Remark) :
    c.pass r = c.take ⟨r, site⟩ := by
  have hon (i j : Nat) : Placed.on [⟨r, site⟩] i j = [] := by
    rw [on_singleton]
    cases site <;> simp_all [Site.role?, Site.isStep]
  rw [pass, take, attach_eq_self hon]

theorem does_associate (c : Commentary) (r : Remark) :
    Does (c.associate r) (c.take (Placed.find c.sections r))
      (Publisher.strays [Placed.find c.sections r]) := by
  rw [associate, ← Site.owner_eq_lastIdx?]
  dsimp only
  cases ho : Site.owner c.sections r.position.line with
  | none =>
    rw [Placed.find, Site.locate_eq_above.mpr ho]
    dsimp only
    rw [c.pass_eq_take .aboveSections rfl]
    exact .tell_bind (.pure _)
  | some i =>
    obtain ⟨⟨s, hs, -⟩, -⟩ := Site.owner_eq_some.mp ho
    dsimp only
    rw [Placed.find, Site.locate_of_owner ho hs, hs, Option.map_some, Option.getD_some,
      lastIdx?_filter, Site.among]
    have hstray : Does (do tell (.remarkWithoutStep r.position.line); return c.pass r)
        (c.take ⟨r, .withoutStep⟩) (Publisher.strays [⟨r, .withoutStep⟩]) := by
      rw [c.pass_eq_take .withoutStep rfl]
      exact .tell_bind (.pure _)
    cases s.steps.findIdx? (r.position.line < ·.position.line) with
    | some j =>
      dsimp only
      rw [c.push_eq_take i j _ .beforeStep]
      exact .pure _
    | none =>
      cases s.steps.getLast? with
      | none => exact hstray
      | some t =>
        by_cases ht : t.position.line < r.position.line
        · rw [Option.any_some, if_pos (decide_eq_true ht)]
          dsimp only
          rw [if_pos ht, c.push_eq_take i _ _ .afterLastStep]
          exact .pure _
        · rw [Option.any_some, if_neg (by simpa using ht)]
          dsimp only
          rw [if_neg ht]
          exact hstray

theorem attach_concat (qs : List Placed) (q : Placed) (l : List Section) :
    Placed.attach [q] (Placed.attach qs l) = Placed.attach (qs ++ [q]) l := by
  rw [Placed.attach, Placed.attach, Placed.attach, List.mapIdx_mapIdx]
  refine congrArg (List.mapIdx · l) (funext fun i ↦ funext fun s ↦ ?_)
  simp [List.mapIdx_mapIdx, on_append, Function.comp_def]

theorem take_attached (c : Commentary) (l : List Remark) (r : Remark) :
    (attached ⟨c.sections, l⟩).take (Placed.find c.sections r) =
      attached ⟨c.sections, l ++ [r]⟩ := by
  simp [attached, take, placed, attach_concat]

/-- Putting one remark after the other where it belongs comes to the same as attaching all of them,
and the remarks that belong nowhere are told of in their order. -/
theorem does_attached (c : Commentary) :
    Does (c.remarks.foldlM associate ⟨c.sections, []⟩) c.attached (Publisher.strays c.placed) := by
  have hstart : attached ⟨c.sections, []⟩ = ⟨c.sections, []⟩ := by
    rw [attached, placed, List.map_nil, attach_eq_self fun _ _ ↦ rfl]
    rfl
  have hstep (l : List Remark) (r : Remark) : Does (associate (attached ⟨c.sections, l⟩) r)
      (attached ⟨c.sections, l ++ [r]⟩) (Publisher.strays [Placed.find c.sections r]) := by
    have hr := does_associate (attached ⟨c.sections, l⟩) r
    have hfind : Placed.find (attached ⟨c.sections, l⟩).sections r =
        Placed.find c.sections r := by
      rw [Placed.find, Placed.find, Site.locate_congr (spans_attached ⟨c.sections, l⟩)]
    rwa [hfind, take_attached] at hr
  have hloop := Does.foldlM (fun l ↦ attached ⟨c.sections, l⟩) _ c.remarks fun l r _ ↦ hstep l r
  have hstrays : (c.remarks.flatMap fun r ↦ Publisher.strays [Placed.find c.sections r]) =
      Publisher.strays c.placed := by
    rw [Publisher.strays, placed, List.filterMap_map, List.filterMap_eq_flatMap_toList]
    refine List.flatMap_congr fun r _ ↦ ?_
    rw [Publisher.strays, List.filterMap_eq_flatMap_toList, List.flatMap_singleton]
    rfl
  rwa [hstart, hstrays] at hloop

end Commentary

end LivingDoc
