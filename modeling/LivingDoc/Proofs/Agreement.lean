import LivingDoc.Proofs.Passages
import LivingDoc.Proofs.Tracking

namespace LivingDoc.Gherkin

open Text DocString Track

namespace Reader

variable {α β : Type} {r : Reader α} {f : α → Reader β} {P P' : Track → List Char → Prop}
  {Q M : α → Track → List Char → Prop} {N : β → Track → List Char → Prop}

/-- Where `P` holds of a track and of the text that is left, `Q` holds after reading: of the value,
of the track fed with what has been taken, and of the text that is then left. -/
def Triple (P : Track → List Char → Prop) (r : Reader α) (Q : α → Track → List Char → Prop) :
  Prop :=
  Takes r fun a x rest ↦ ∀ σ, P σ (x ++ rest) → Q a (σ.feed x) rest

namespace Triple

theorem of_takes {R : α → List Char → List Char → Prop} (h : Takes r R)
    (hR : ∀ a x rest σ, R a x rest → P σ (x ++ rest) → Q a (σ.feed x) rest) : Triple P r Q :=
  h.mono fun a x rest hx σ hσ ↦ hR a x rest σ hx hσ

theorem takes (h : Triple P r Q) : Takes r fun _ _ _ ↦ True := Takes.mono h fun _ _ _ _ ↦ trivial

theorem imp (h : Triple P r Q) (hP : ∀ σ rest, P' σ rest → P σ rest)
    (hQ : ∀ a σ rest, Q a σ rest → M a σ rest) : Triple P' r M :=
  h.mono fun a _ _ hx σ hσ ↦ hQ a _ _ (hx σ (hP _ _ hσ))

theorem post (h : Triple P r Q) (hQ : ∀ a σ rest, Q a σ rest → M a σ rest) : Triple P r M :=
  h.imp (fun _ _ ↦ id) hQ

theorem pre (h : Triple P r Q) (hP : ∀ σ rest, P' σ rest → P σ rest) : Triple P' r Q :=
  h.imp hP fun _ _ _ ↦ id

theorem under {φ : Prop} (h : Triple P r Q) :
    Triple (fun σ rest ↦ φ → P σ rest) r fun a σ rest ↦ φ → Q a σ rest :=
  h.mono fun _ _ _ hx σ hσ hφ ↦ hx σ (hσ hφ)

theorem frame {φ : Prop} (h : Triple P r Q) :
    Triple (fun σ rest ↦ φ ∧ P σ rest) r fun a σ rest ↦ φ ∧ Q a σ rest :=
  h.mono fun _ _ _ hx σ hσ ↦ ⟨hσ.1, hx σ hσ.2⟩

theorem pure {a : α} (h : ∀ σ rest, P σ rest → Q a σ rest) : Triple P (Pure.pure a) Q := by
  refine of_takes (Takes.pure a) ?_
  rintro _ _ rest σ ⟨rfl, rfl⟩ hσ
  exact h σ rest hσ

theorem bind_of {φ : α → Prop} (h : Triple P r M) (hφ : Gives r φ)
    (hf : ∀ a, φ a → Triple (M a) (f a) N) : Triple P (r >>= f) N := by
  refine of_takes (Takes.bind_of h hφ hf) ?_
  rintro b _ rest σ ⟨a, x, y, rfl, hx, hy⟩ hσ
  rw [feed_append]
  exact hy _ (hx σ (List.append_assoc x y rest ▸ hσ))

theorem bind (h : Triple P r M) (hf : ∀ a, Triple (M a) (f a) N) : Triple P (r >>= f) N :=
  h.bind_of (Gives.any r) fun a _ ↦ hf a

theorem orElse {s : Reader α} (h : Triple P r Q) (h' : Triple P s Q) : Triple P (r <|> s) Q :=
  Takes.orElse h h'

theorem optional {N : Option α → Track → List Char → Prop} (h : Triple P r fun a ↦ N (some a))
    (hnone : ∀ σ rest, P σ rest → N none σ rest) : Triple P (optional r) N := by
  refine of_takes (Takes.optional h) ?_
  rintro _ x rest σ (⟨a, rfl, hx⟩ | ⟨rfl, rfl⟩) hσ
  · exact hx σ hσ
  · exact hnone σ rest hσ

theorem absent : Triple P (absent r) fun _ ↦ P := by
  refine of_takes (Takes.absent r) ?_
  rintro _ _ rest σ rfl hσ
  exact hσ

theorem position : Triple P position fun _ ↦ P := by
  refine of_takes Takes.position ?_
  rintro _ _ rest σ rfl hσ
  exact hσ

theorem many {I : List α → Track → List Char → Prop}
    (h : ∀ as, Triple (I as) r fun a ↦ I (as ++ [a])) : Triple (I []) (many r) I := by
  refine of_takes (Takes.forall_index h).many ?_
  intro as x rest σ hchain hσ
  -- The induction is on the readings to come, so it has to hold below any that came before.
  suffices ∀ as', I as' σ (x ++ rest) → I (as' ++ as) (σ.feed x) rest from this [] hσ
  clear hσ
  induction hchain generalizing σ with
  | nil =>
    intro as' hσ
    rwa [List.append_nil]
  | @cons a as x y rest hx _ ih =>
    intro as' hσ
    rw [feed_append, ← List.singleton_append, ← List.append_assoc]
    exact ih _ (as' ++ [a]) (hx as' σ (List.append_assoc x y rest ▸ hσ))

theorem severalWith {I : List α → Track → List Char → Prop} {sep : Reader β}
    (h : ∀ as, Triple (I as) r fun a ↦ I (as ++ [a]))
    (hsep : ∀ as, Triple (I as) sep fun _ ↦ I as) :
    Triple (I []) (severalWith sep r) I := by
  refine (h []).bind fun a ↦ ?_
  have hmany := many (I := fun as ↦ I ([a] ++ as)) fun as ↦
    (hsep ([a] ++ as)).bind fun _ ↦ (h ([a] ++ as)).post fun b σ rest ↦ by
      rw [List.append_assoc]
      exact id
  refine Triple.bind ?_ fun as ↦ pure fun σ rest hσ ↦ hσ
  exact hmany.pre fun σ rest hσ ↦ hσ

theorem manyWith {I : List α → Track → List Char → Prop} {sep : Reader β}
    (h : ∀ as, Triple (I as) r fun a ↦ I (as ++ [a]))
    (hsep : ∀ as, Triple (I as) sep fun _ ↦ I as) :
    Triple (I []) (manyWith sep r) I :=
  (severalWith h hsep).orElse (pure fun _ _ ↦ id)

end Triple

def Keeps (P : Track → List Char → Prop) (r : Reader α) : Prop := Triple P r fun _ ↦ P

namespace Keeps

variable {sep : Reader β}

theorem bind (h : Keeps P r) (hf : ∀ a, Keeps P (f a)) : Keeps P (r >>= f) := Triple.bind h hf

theorem pure (a : α) : Keeps P (Pure.pure a) := Triple.pure fun _ _ ↦ id

theorem optional (h : Keeps P r) : Keeps P (optional r) := Triple.optional h fun _ _ ↦ id

theorem many (h : Keeps P r) : Keeps P (many r) := Triple.many (I := fun _ ↦ P) fun _ ↦ h

theorem severalWith (h : Keeps P r) (hsep : Keeps P sep) : Keeps P (severalWith sep r) :=
  Triple.severalWith (I := fun _ ↦ P) (fun _ ↦ h) fun _ ↦ hsep

theorem manyWith (h : Keeps P r) (hsep : Keeps P sep) : Keeps P (manyWith sep r) :=
  Triple.manyWith (I := fun _ ↦ P) (fun _ ↦ h) fun _ ↦ hsep

end Keeps

end Reader

namespace Grammar

open Reader

variable {B : List String} {α : Type} {r : Reader α}

theorem calm_idle (σ : Track) (rest : List Char) (h : Calm B σ) : Idle B σ rest := .inr (.inl h)

theorem firm_calm {R : α → List Char → List Char → Prop} (h : Takes r R)
    (hR : ∀ a x rest, R a x rest → Firm x) : Triple (Idle B) r fun _ σ _ ↦ Calm B σ :=
  .of_takes h fun a x rest _ hx hσ ↦ hσ.calm (hR a x rest hx)

theorem keeps_calm {R : α → List Char → List Char → Prop} (h : Takes r R)
    (hR : ∀ a x rest, R a x rest → '\n' ∉ x) : Keeps (fun σ _ ↦ Calm B σ) r :=
  .of_takes h fun a x rest _ hx hσ ↦ hσ.feed (hR a x rest hx)

theorem blanks_idle : Keeps (Idle B) blanks :=
  .of_takes blanks_takes fun _ _ _ _ hx hσ ↦ hσ.feed_space hx

theorem blanks_calm : Keeps (fun σ _ ↦ Calm B σ) blanks :=
  keeps_calm blanks_takes fun _ _ _ hx ↦ hx.1

theorem newline_fresh : Triple (Idle B) newline fun _ σ _ ↦ Fresh B σ := by
  refine .of_takes newline_takes ?_
  rintro _ _ rest σ ⟨p, rfl, hp⟩ hσ
  exact hσ.newline hp

theorem newline_idle : Keeps (Idle B) newline := newline_fresh.post fun _ _ _ ↦ .inl

theorem blank_idle : Keeps (Idle B) blank :=
  .of_takes blank_takes fun _ _ _ _ hx hσ ↦ hσ.feed_space (space_of_blank hx)

theorem gap_idle : Keeps (Idle B) gap :=
  Keeps.bind (.many (Triple.orElse blank_idle newline_idle)) fun _ ↦ .pure _

theorem newlines_idle : Keeps (Idle B) newlines := Keeps.bind (.many newline_idle) fun _ ↦ .pure _

theorem atEnd_idle : Keeps (Idle B) atEnd := by
  refine .of_takes Takes.atEnd ?_
  rintro _ _ rest σ ⟨rfl, -⟩ hσ
  exact hσ

theorem close_idle : Keeps (Idle B) close := by
  have hpiece : Keeps (Idle B) (newline <|> blank) := Triple.orElse newline_idle blank_idle
  refine Triple.orElse (Keeps.bind ?_ fun _ ↦ .pure _) atEnd_idle
  exact Keeps.bind hpiece fun _ ↦ Keeps.bind hpiece.many fun _ ↦ .pure _

theorem close_ready : Triple (Ending B) close fun _ ↦ Ready B := by
  have hfirst : Triple (Ending B) (newline <|> blank) fun _ σ _ ↦ Fresh B σ := by
    refine Triple.orElse (.of_takes newline_takes ?_) (.of_takes blank_takes ?_)
    · rintro _ _ rest σ ⟨p, rfl, hp⟩ hσ
      exact hσ.newline (hp.elim And.left And.left)
    · rintro _ _ rest σ (rfl | rfl) ⟨-, h | ⟨l, h⟩ | ⟨l, h⟩⟩ <;> cases h
  have hrest : Keeps (fun σ _ ↦ Fresh B σ) (newline <|> blank) :=
    Triple.orElse (newline_fresh.pre fun _ _ ↦ .inl)
      (.of_takes blank_takes fun _ _ _ _ hx hσ ↦ hσ.feed_space (space_of_blank hx))
  refine Triple.orElse (Triple.bind (Triple.bind hfirst fun _ ↦
    Triple.bind hrest.many fun _ ↦ .pure fun _ _ ↦ id) fun _ ↦ .pure fun _ _ ↦ .inl)
    (.of_takes Takes.atEnd ?_)
  rintro _ _ rest σ ⟨rfl, rfl⟩ hσ
  exact .inr ⟨hσ.1, rfl⟩

theorem comment_idle : Keeps (Idle B) comment :=
  Triple.bind (firm_calm commentBody_takes fun _ _ _ ↦ id) fun _ ↦ close_idle.pre calm_idle

theorem comments_idle : Keeps (Idle B) comments := Keeps.bind comment_idle.many fun _ ↦ .pure _

def Fair (words : List String) : Prop := ∀ w ∈ words, Firm w.toList

theorem keyword_calm {words : List String} (h : Fair words) :
    Triple (Idle B) (keyword words) fun _ σ _ ↦ Calm B σ := by
  refine Triple.bind comments_idle fun _ ↦ firm_calm (Takes.oneOf words) ?_
  rintro w _ rest ⟨hw, rfl⟩
  exact h w hw

theorem head_idle {words : List String} (h : Fair words) : Keeps (Idle B) (head words) := by
  refine (keyword_calm h).bind fun _ ↦ Triple.bind (keeps_calm (Takes.word _) ?_) fun _ ↦
    Triple.bind blanks_calm fun _ ↦
      Triple.bind (Keeps.optional (keeps_calm lineRest_takes ?_)) fun _ ↦
    Triple.bind blanks_calm fun _ ↦ Triple.bind (close_idle.pre calm_idle) fun _ ↦ Keeps.pure _
  · rintro _ _ rest rfl
    decide
  · rintro _ x rest ⟨rfl, -, hx, -⟩
    exact hx

theorem tags_idle : Keeps (Idle B) tags := by
  have htag : Keeps (Idle B) tag := (firm_calm tag_takes fun _ _ _ ↦ id).post fun _ ↦ calm_idle
  exact Keeps.bind (htag.manyWith gap_idle) fun _ ↦ Keeps.bind blanks_idle fun _ ↦
    Keeps.bind newlines_idle fun _ ↦ .pure _

theorem table_idle : Keeps (Idle B) table := by
  have hcell : Keeps (Idle B) cell := (firm_calm cell_takes fun _ _ _ ↦ id).post fun _ ↦ calm_idle
  have hbar : Triple (Idle B) (word ['|']) fun _ σ _ ↦ Calm B σ := by
    refine firm_calm (Takes.word _) ?_
    rintro _ _ rest rfl
    decide
  have hrow : Keeps (Idle B) row :=
    Keeps.bind (hcell.manyWith blanks_idle) fun _ ↦ Keeps.bind blanks_idle fun _ ↦
      Triple.bind hbar fun _ ↦ Triple.bind blanks_calm fun _ ↦
      Triple.bind (close_idle.pre calm_idle) fun _ ↦ Keeps.pure _
  refine Keeps.bind blanks_idle fun _ ↦ Keeps.bind (hrow.severalWith blanks_idle) fun rows ↦ ?_
  dsimp only
  split
  · exact .pure _
  · intro c a c' h
    cases h

theorem freeLine_gives (ends : List String) : Gives (freeLine ends) fun line ↦ '\n' ∉ line := by
  have hline : Gives lineRest fun line ↦ '\n' ∉ line := by
    intro c line c' h
    obtain ⟨x, -, rfl, -, hline, -⟩ := lineRest_takes c line c' h
    exact hline
  refine (Gives.any _).bind fun _ _ ↦ (Gives.any _).bind fun _ _ ↦ (Gives.any _).bind fun _ _ ↦
    (Gives.any _).bind fun _ _ ↦ hline.bind fun line hn ↦ (Gives.any _).bind fun _ _ ↦ ?_
  intro c l c' h
  obtain ⟨rfl, -⟩ := Reply.done.inj h
  exact hn

theorem freeLine_idle (ends : List String) : Triple (Idle B) (freeLine ends) fun line σ rest ↦
    fenceOf line = none → Idle B σ rest := by
  have hline : Triple (Idle B) lineRest fun line σ rest ↦
      fenceOf line = none → Ending B σ rest := by
    refine .of_takes lineRest_takes ?_
    rintro line _ rest σ ⟨rfl, hne, hn, hend⟩ hσ hf
    exact ⟨hσ.ending hne hn hf, hend⟩
  exact Triple.bind blanks_idle fun _ ↦ Triple.absent.bind fun _ ↦ Triple.absent.bind fun _ ↦
    Triple.bind blanks_idle fun _ ↦ hline.bind fun line ↦ close_ready.under.bind fun _ ↦
    .pure fun σ rest hσ hf ↦ (hσ hf).idle

def Below (B : List String) (ls : List (List Char)) (σ : Track) (rest : List Char) : Prop :=
  (∀ l ∈ ls, '\n' ∉ l) ∧ ((∀ l ∈ ls, fenceOf l = none) → Idle B σ rest)

theorem freeText_idle (ends : List String) : Triple (Idle B) (freeText ends) fun text σ rest ↦
    Raw.Unfenced text → Idle B σ rest := by
  have hline (ls : List (List Char)) :
      Triple (Below B ls) (freeLine ends) fun line ↦ Below B (ls ++ [line]) := by
    refine Takes.mono (Takes.gives (freeLine_idle (B := B) ends) (freeLine_gives ends)) ?_
    rintro line x rest ⟨hline, hx⟩ σ ⟨hn, hσ⟩
    refine ⟨List.forall_mem_append.mpr ⟨hn, List.forall_mem_singleton.mpr hline⟩, fun hf ↦ ?_⟩
    obtain ⟨hls, hlast⟩ := List.forall_mem_append.mp hf
    exact hx σ (hσ hls) (hlast line List.mem_cons_self)
  have hkeeps {r : Reader Unit} (hr : Keeps (Idle B) r) (ls : List (List Char)) :
      Keeps (Below B ls) r := Triple.frame (Triple.under hr)
  refine Triple.bind ((Triple.manyWith hline (hkeeps blanks_idle)).pre
    fun σ rest hσ ↦ ⟨nofun, fun _ ↦ hσ⟩) fun ls ↦ Triple.bind (hkeeps gap_idle ls) fun _ ↦ .pure ?_
  rintro σ rest ⟨hn, hσ⟩ htext
  apply hσ
  split at htext
  · next hblank => exact fun l hl ↦ fenceOf_of_blank (blank_of_intercalate hblank l hl)
  · refine fenceOf_of_intercalate hn ?_
    rw [← String.toList_ofList (l := ['\n'].intercalate ls)]
    exact htext _ rfl

variable {fence : List Char}

/-- A piece of the text between two fences. -/
def Piece (fence : List Char) (x rest : List Char) : Prop :=
  ¬ fence <+: x ++ rest ∧ ((∃ p, x = p ++ ['\n'] ∧ (Space p ∨ Firm p)) ∨ ∃ c, x = [c])

theorem piece_takes (fence : List Char) :
    Takes (do absent (word fence); newline <|> (do let _ ← any)) fun _ ↦ Piece fence := by
  refine ((Takes.absent_word fence).bind fun _ ↦ Takes.orElse
    (R := fun _ x _ ↦ (∃ p, x = p ++ ['\n'] ∧ (Space p ∨ Firm p)) ∨ ∃ c, x = [c])
    (newline_takes.mono fun _ _ _ ↦ .inl)
    (((Takes.char _).bind fun _ ↦ Takes.pure ()).mono ?_)).mono ?_
  · rintro _ _ rest ⟨c, _, _, rfl, ⟨rfl, -⟩, -, rfl⟩
    exact .inr ⟨c, rfl⟩
  · rintro _ _ rest ⟨_, _, x, rfl, ⟨rfl, hnot⟩, hx⟩
    exact ⟨hnot, hx⟩

theorem inside_of_piece (hf : fence ∈ [quotes, ticks]) {bodies : List (List Char)} {σ : Track}
    {x y rest : List Char} (hx : Piece fence x rest) (h : Inside fence bodies y σ (x ++ rest)) :
    Inside fence bodies (y ++ x) (σ.feed x) rest := by
  obtain ⟨hnot, ⟨p, rfl, hp⟩ | ⟨c, rfl⟩⟩ := hx
  · exact h.line hf hp
  · by_cases hc : c = '\n'
    · subst hc
      exact h.line (p := []) hf (.inl .nil)
    · exact h.char hc hnot

theorem inside_of_chain (hf : fence ∈ [quotes, ticks]) {bodies : List (List Char)} {us : List Unit}
    {σ : Track} {x y rest : List Char} (hx : Chain (fun _ ↦ Piece fence) us x rest)
    (h : Inside fence bodies y σ (x ++ rest)) : Inside fence bodies (y ++ x) (σ.feed x) rest := by
  induction hx generalizing σ y with
  | nil => rwa [List.append_nil]
  | cons hx _ ih =>
    rw [List.append_assoc] at h
    rw [feed_append, ← List.append_assoc]
    exact ih (inside_of_piece hf hx h)

/-- A doc string whose last line is blank is the body that the fences enclose. -/
theorem fenced_idle (hf : fence ∈ [quotes, ticks]) : Triple (Ready B) (fenced fence) fun s σ rest ↦
    s.toList.getLast? = some '\n' → Idle (B ++ [s]) σ rest := by
  have hopen : Triple (Ready B) (word fence) fun _ σ rest ↦
      ∃ bodies, Inside fence bodies [] σ rest ∧ σ.docStrings = B := by
    refine .of_takes (Takes.word fence) ?_
    rintro _ _ rest σ rfl (h | ⟨-, hnil⟩)
    · obtain ⟨bodies, block, w⟩ := σ
      obtain ⟨hblock, hB, hw⟩ := h
      change block = none at hblock
      subst hblock
      rw [feed_line (newline_not_mem hf)]
      exact ⟨bodies, .start hw, hB⟩
    · exact absurd (List.append_eq_nil_iff.mp hnil).1 (ne_nil_of_mem hf)
  have hbody : Triple (fun σ rest ↦ ∃ bodies, Inside fence bodies [] σ rest ∧ σ.docStrings = B)
      (taken (many (do absent (word fence); newline <|> (do let _ ← any)))) fun x σ rest ↦
      ∃ bodies, Inside fence bodies x σ rest ∧ σ.docStrings = B := by
    refine .of_takes (Takes.taken (piece_takes fence).many) ?_
    rintro _ x rest σ ⟨rfl, us, hx⟩ ⟨bodies, h, hB⟩
    have hin := inside_of_chain hf hx h
    refine ⟨bodies, hin, ?_⟩
    rw [← hB, docStrings, docStrings, hin.bodies_eq, h.bodies_eq]
  have hclose (x : List Char) : Triple (fun σ rest ↦ ∃ bodies, Inside fence bodies x σ rest ∧
      σ.docStrings = B) (word fence) fun _ σ _ ↦
      (dedent x).getLast? = some '\n' → Calm (B ++ [.ofList (dedent x)]) σ := by
    refine .of_takes (Takes.word fence) ?_
    rintro _ _ rest σ rfl ⟨bodies, h, rfl⟩ hlast
    obtain ⟨u, p, rfl, hu, hp⟩ := blank_of_dedent hlast
    exact h.calm hf hu ⟨hp.2, hp.1⟩
  refine hopen.bind fun _ ↦ hbody.bind fun x ↦ (hclose x).bind fun _ ↦
    (close_idle.pre calm_idle).under.bind fun _ ↦ .pure fun σ rest hσ hlast ↦ hσ ?_
  rwa [String.toList_ofList] at hlast

theorem docString_idle : Triple (Ready B) docString fun s σ rest ↦
    s.toList.getLast? = some '\n' → Idle (B ++ [s]) σ rest :=
  (fenced_idle (by decide)).orElse (fenced_idle (by decide))

/-- What is read is orderly only if its doc strings are the ones that its fences enclose. -/
def Faithful (r : Reader α) (p : α → Prop) (docs : α → List String) : Prop :=
  ∀ B, Triple (Idle B) r fun a σ rest ↦ p a → Idle (B ++ docs a) σ rest

def Told (p : α → Prop) (docs : α → List String) (B : List String) (as : List α) (σ : Track)
    (rest : List Char) : Prop :=
  (∀ a ∈ as, p a) → Idle (B ++ as.flatMap docs) σ rest

namespace Faithful

variable {p : α → Prop} {docs : α → List String}

theorem told (h : Faithful r p docs) (as : List α) :
    Triple (Told p docs B as) r fun a ↦ Told p docs B (as ++ [a]) := by
  refine (h (B ++ as.flatMap docs)).under.post fun a σ rest hσ hall ↦ ?_
  obtain ⟨has, ha⟩ := List.forall_mem_append.mp hall
  have := hσ has (ha a List.mem_cons_self)
  rwa [List.flatMap_append, List.flatMap_singleton, ← List.append_assoc]

theorem told_nil {σ : Track} {rest : List Char} (h : Idle B σ rest) : Told p docs B [] σ rest := by
  intro _
  rwa [List.flatMap_nil, List.append_nil]

theorem keeps_told {β : Type} {s : Reader β} (h : ∀ B, Keeps (Idle B) s) (as : List α) :
    Keeps (Told p docs B as) s := Triple.under (h _)

theorem many (h : Faithful r p docs) :
    Faithful (many r) (fun as ↦ ∀ a ∈ as, p a) (List.flatMap docs) :=
  fun _ ↦ (Triple.many h.told).pre fun _ _ ↦ told_nil

theorem manyWith {β : Type} {sep : Reader β} (h : Faithful r p docs)
    (hsep : ∀ B, Keeps (Idle B) sep) :
    Faithful (manyWith sep r) (fun as ↦ ∀ a ∈ as, p a) (List.flatMap docs) :=
  fun _ ↦ (Triple.manyWith h.told (keeps_told hsep)).pre fun _ _ ↦ told_nil

theorem optional (h : Faithful r p docs) :
    Faithful (optional r) (fun o ↦ ∀ a ∈ o, p a) (fun o ↦ o.toList.flatMap docs) := by
  intro B
  refine Triple.optional ((h B).post fun a σ rest hσ ha ↦ ?_) fun σ rest hσ _ ↦ ?_
  · simpa using hσ (ha a rfl)
  · simpa using hσ

theorem orElse {s : Reader α} (h : Faithful r p docs) (h' : Faithful s p docs) :
    Faithful (r <|> s) p docs := fun B ↦ (h B).orElse (h' B)

end Faithful

variable {d : Dialect}

theorem stepWith_faithful {words : List String} (h : Fair words) :
    Faithful (stepWith words) Raw.Step.Orderly Raw.Step.docStrings := by
  intro B
  have htext : Triple (fun σ _ ↦ Calm B σ) lineRest fun _ ↦ Ending B := by
    refine .of_takes lineRest_takes ?_
    rintro _ x rest σ ⟨rfl, -, hx, hend⟩ hσ
    exact ⟨(hσ.feed hx).quiet, hend⟩
  have hblanks : Keeps (Ending B) blanks :=
    .of_takes blanks_takes fun _ _ _ _ hx hσ ↦ hσ.feed_space hx
  have hready : Keeps (Ready B) blanks :=
    .of_takes blanks_takes fun _ _ _ _ hx hσ ↦ hσ.feed_space hx
  have hdoc : Triple (Ready B) (optional docString) fun o σ rest ↦
      (∀ t ∈ o, t.toList.getLast? = some '\n') → Idle (B ++ o.toList) σ rest := by
    refine Triple.optional (docString_idle.post fun t σ rest hσ ht ↦ hσ (ht t rfl)) ?_
    intro σ rest hσ _
    simpa using hσ.idle
  exact Triple.position.bind fun _ ↦ (keyword_calm h).bind fun _ ↦ Triple.bind blanks_calm fun _ ↦
    htext.bind fun _ ↦ Triple.bind hblanks fun _ ↦ close_ready.bind fun _ ↦
    Triple.bind hready fun _ ↦ hdoc.bind fun _ ↦ (Keeps.optional table_idle).under.bind fun _ ↦
    .pure fun _ _ hσ hs ↦ hσ hs.docString

def openers (d : Dialect) : List (List String) :=
  [d.feature, d.background, d.rule, d.scenario, d.outline, d.examples, d.steps.context,
    d.steps.action, d.steps.outcome, d.steps.conjunction, d.steps.contrast]

/-- No fence begins a line that a word of the dialect opens. -/
def FairDialect (d : Dialect) : Prop := ∀ words ∈ openers d, Fair words

theorem fairDialect_of_mem : ∀ d ∈ Dialect.all, FairDialect d := by
  unfold FairDialect Fair
  decide +kernel

theorem opening_faithful (hd : FairDialect d) :
    Faithful (opening d) Raw.Step.Orderly Raw.Step.docStrings := by
  have hwith {words : List String} (h : words ∈ openers d) := stepWith_faithful (hd words h)
  refine .orElse (fun B ↦ Triple.bind comments_idle fun _ ↦ hwith ?_ B)
    (.orElse (hwith ?_) (hwith ?_))
  all_goals simp [openers]

theorem step_faithful (hd : FairDialect d) :
    Faithful (step d) Raw.Step.Orderly Raw.Step.docStrings := by
  have hwith {words : List String} (h : words ∈ openers d) := stepWith_faithful (hd words h)
  refine .orElse (opening_faithful hd) (.orElse (hwith ?_) (hwith ?_))
  all_goals simp [openers]

theorem steps_faithful (hd : FairDialect d) :
    Faithful (steps d) (fun ss ↦ ∀ s ∈ ss, s.Orderly) (List.flatMap Raw.Step.docStrings) := by
  refine .orElse (fun B ↦ ?_) fun B ↦ .pure fun _ _ ↦ Faithful.told_nil
  have hfirst : Triple (Idle B) (opening d) fun first ↦
      Told Raw.Step.Orderly Raw.Step.docStrings B [first] :=
    ((opening_faithful hd).told []).pre fun _ _ ↦ Faithful.told_nil
  refine hfirst.bind fun first ↦ Triple.bind (Triple.many
    (I := fun ss ↦ Told Raw.Step.Orderly Raw.Step.docStrings B (first :: ss)) fun ss ↦ ?_) fun ss ↦
    .pure fun _ _ ↦ id
  exact Triple.bind (Faithful.keeps_told (fun _ ↦ blanks_idle) _) fun _ ↦ (step_faithful hd).told _

theorem background_faithful (hd : FairDialect d) :
    Faithful (background d) Raw.Background.Orderly Raw.Background.docStrings := by
  intro B
  exact Triple.bind comments_idle fun _ ↦ Triple.bind blanks_idle fun _ ↦
    Triple.position.bind fun _ ↦ Triple.bind (head_idle (hd _ (by simp [openers]))) fun _ ↦
    (freeText_idle _).bind fun _ ↦ (steps_faithful hd B).under.bind fun _ ↦
    .pure fun _ _ hσ hb ↦ hσ hb.description hb.steps

theorem examples_faithful (hd : FairDialect d) :
    Faithful (examples d) (fun e ↦ Raw.Unfenced e.description) fun _ ↦ [] := by
  intro B
  simp only [List.append_nil]
  exact Triple.bind comments_idle fun _ ↦ Triple.bind blanks_idle fun _ ↦
    Triple.bind tags_idle fun _ ↦ Triple.bind blanks_idle fun _ ↦ Triple.position.bind fun _ ↦
    Triple.bind (head_idle (hd _ (by simp [openers]))) fun _ ↦ (freeText_idle _).bind fun _ ↦
    (Keeps.optional table_idle).under.bind fun _ ↦ .pure fun _ _ hσ he ↦ hσ he

theorem scenarioWith_faithful (hd : FairDialect d) {words : List String} (h : Fair words) :
    Faithful (scenarioWith d words) Raw.Scenario.Orderly Raw.Scenario.docStrings := by
  intro B
  exact Triple.bind comments_idle fun _ ↦ Triple.bind blanks_idle fun _ ↦
    Triple.bind tags_idle fun _ ↦ Triple.bind blanks_idle fun _ ↦ Triple.position.bind fun _ ↦
    Triple.bind (head_idle h) fun _ ↦ (freeText_idle _).bind fun _ ↦
    (steps_faithful hd B).under.bind fun _ ↦
      ((examples_faithful hd).many _).under.under.bind fun _ ↦
    .pure fun σ rest hσ hs ↦ by
      have := hσ hs.description hs.steps hs.examples
      rwa [List.flatMap_eq_nil_iff.mpr fun _ _ ↦ rfl, List.append_nil] at this

theorem scenarios_faithful (hd : FairDialect d) : Faithful (scenarios d)
    (fun ss ↦ ∀ s ∈ ss, s.Orderly) (List.flatMap Raw.Scenario.docStrings) := by
  have hscenario : Faithful (scenario d) Raw.Scenario.Orderly Raw.Scenario.docStrings :=
    .orElse (scenarioWith_faithful hd (hd _ (by simp [openers])))
      (scenarioWith_faithful hd (hd _ (by simp [openers])))
  intro B
  exact Triple.bind newlines_idle fun _ ↦ Triple.bind blanks_idle fun _ ↦
    (hscenario.manyWith (fun _ ↦ blanks_idle) B).bind fun _ ↦
    (Triple.under newlines_idle).bind fun _ ↦ .pure fun _ _ ↦ id

theorem rule_takes (hd : FairDialect d) : Takes (rule d) fun _ _ _ ↦ True := by
  have hblanks := Triple.takes (blanks_idle (B := []))
  exact (hblanks.bind fun _ ↦ (Triple.takes (tags_idle (B := []))).bind fun _ ↦ hblanks.bind fun _ ↦
    Takes.position.bind fun _ ↦
    (Triple.takes (head_idle (B := []) (hd d.rule (by simp [openers])))).bind fun _ ↦
    (freeText_idle (B := []) _).takes.bind fun _ ↦
    ((background_faithful hd).optional []).takes.bind fun _ ↦
    (scenarios_faithful hd []).takes.bind fun _ ↦ Takes.pure _).mono fun _ _ _ _ ↦ trivial

theorem directive_idle : Keeps (Idle B) directive := by
  have hend : Keeps (Idle B) lineEnd := by
    refine .of_takes lineEnd_takes ?_
    rintro _ _ rest σ (rfl | rfl) hσ
    · exact .inl (hσ.newline (p := []) (.inl .nil))
    · exact .inl (hσ.newline (p := ['\r']) (.inl ⟨by decide, by decide⟩))
  have hhash : Triple (Idle B) (word ['#']) fun _ σ _ ↦ Calm B σ := by
    refine firm_calm (Takes.word _) ?_
    rintro _ _ rest rfl
    decide
  have hword {w : List Char} (hw : '\n' ∉ w) : Keeps (fun σ _ ↦ Calm B σ) (word w) :=
    keeps_calm (Takes.word w) fun _ _ _ hx ↦ hx ▸ hw
  refine Triple.bind (Keeps.many (Triple.orElse blank_idle hend)) fun _ ↦ hhash.bind fun _ ↦
    Triple.bind blanks_calm fun _ ↦ Triple.bind (hword (by decide)) fun _ ↦
    Triple.bind blanks_calm fun _ ↦ Triple.bind (hword (by decide)) fun _ ↦
    Triple.bind blanks_calm fun _ ↦
    Triple.bind (keeps_calm lineRest_takes fun _ _ _ hx ↦ hx.1 ▸ hx.2.2.1) fun code ↦
    Triple.bind blanks_calm fun _ ↦ (newline_idle.pre calm_idle).bind fun _ ↦ ?_
  split
  · exact .pure fun _ _ ↦ id
  · intro c a c' h
    cases h

theorem directive_gives : Gives directive FairDialect := by
  refine (Gives.any _).bind fun _ _ ↦ (Gives.any _).bind fun _ _ ↦ (Gives.any _).bind fun _ _ ↦
    (Gives.any _).bind fun _ _ ↦ (Gives.any _).bind fun _ _ ↦ (Gives.any _).bind fun _ _ ↦
    (Gives.any _).bind fun _ _ ↦ (Gives.any _).bind fun code _ ↦ (Gives.any _).bind fun _ _ ↦
    (Gives.any _).bind fun _ _ ↦ ?_
  split
  · next hd =>
    intro c d c' h
    obtain ⟨rfl, -⟩ := Reply.done.inj h
    exact fairDialect_of_mem _ (List.mem_of_find?_eq_some hd)
  · intro c d c' h
    cases h

theorem feature_faithful (hd : FairDialect d) : Triple (Idle B) (feature d) fun f σ rest ↦
    (f.Orderly → Idle (B ++ f.docStrings) σ rest) ∧ rest = [] := by
  have hdialect : Gives (optional directive) fun o ↦ FairDialect (o.getD d) := by
    intro c o c' h
    rcases optional_eq_done.mp h with ⟨d', rfl, h'⟩ | ⟨rfl, -, -⟩
    · exact directive_gives c d' c' h'
    · exact hd
  refine Triple.bind blanks_idle fun _ ↦
    Triple.bind_of (Keeps.optional directive_idle) hdialect fun o hd ↦ ?_
  have hrules (B : List String) : Triple (Idle B) (manyWith blanks (rule (o.getD d)))
      fun rules σ rest ↦ rules = [] → Idle B σ rest := by
    refine (Triple.manyWith (I := fun rules σ rest ↦ rules = [] → Idle B σ rest) ?_ ?_).pre
      fun _ _ hσ _ ↦ hσ
    · exact fun as ↦ (rule_takes hd).mono fun a _ _ _ σ _ hnil ↦ by simp at hnil
    · exact fun as ↦ Triple.under blanks_idle
  have hend (P : Track → List Char → Prop) :
      Triple P atEnd fun _ σ rest ↦ P σ rest ∧ rest = [] := by
    refine .of_takes Takes.atEnd ?_
    rintro _ _ rest σ ⟨rfl, rfl⟩ hσ
    exact ⟨hσ, rfl⟩
  refine Triple.bind newlines_idle fun _ ↦ Triple.bind tags_idle fun _ ↦
    Triple.position.bind fun _ ↦ Triple.bind (head_idle (hd _ (by simp [openers]))) fun _ ↦
    (freeText_idle _).bind fun _ ↦ ((background_faithful hd).optional B).under.bind fun _ ↦
    (scenarios_faithful hd _).under.under.bind fun _ ↦
    (Triple.under (Triple.under (Triple.under blanks_idle))).bind fun _ ↦
    (hrules _).under.under.under.bind fun _ ↦
    (Triple.under (Triple.under (Triple.under (Triple.under newlines_idle)))).bind fun _ ↦
    (hend _).bind fun _ ↦ .pure ?_
  rintro σ rest ⟨hσ, hnil⟩
  refine ⟨fun hf ↦ ?_, hnil⟩
  have := hσ hf.description hf.background hf.scenarios hf.rules
  rwa [List.append_assoc] at this

end Grammar

namespace Track

/-- Below the text of an orderly feature no fence is open, and the fences enclose its doc strings.
-/
theorem docStrings_of_parse {d : Dialect} (hd : Grammar.FairDialect d) {l : List Char}
    (hl : Whole l)
    {f : Raw.Feature} (h : Grammar.parse? d l = some f) (hf : f.Orderly) :
    (start.feed l).block = none ∧ (start.feed l).docStrings = f.docStrings := by
  have hidle : Idle f.docStrings (start.feed l) [] := by
    rw [Grammar.parse?] at h
    split at h
    · next f' c' hdone =>
      obtain rfl := Option.some.inj h
      obtain ⟨x, hx, hσ⟩ := Grammar.feature_faithful hd _ _ _ hdone
      obtain ⟨hidle, hnil⟩ := hσ start (.inl ⟨rfl, rfl, rfl⟩)
      rw [hnil, List.append_nil] at hx
      obtain rfl : l = x := hx
      exact hnil ▸ hidle hf
    · cases h
    · cases h
  have hquiet : Quiet f.docStrings (start.feed l) := by
    rcases hidle with h | h | h
    · exact h.quiet
    · exact h.quiet
    · exact h.1
  have hline := (feed_start hl).1
  have hmem := mem_fence_start hl
  have hend : Fresh f.docStrings (start.feed l).endLine := hquiet [] .nil
  generalize start.feed l = σ at hline hmem hend ⊢
  obtain ⟨bodies, block, line⟩ := σ
  change line = [] at hline
  subst hline
  cases block with
  | none => exact ⟨rfl, hend.docStrings⟩
  | some b =>
    have hopen : b.1.isPrefixOf (trimStart []) = false := by
      have hb := hmem b.1 rfl
      simp only [List.mem_cons, List.not_mem_nil, or_false] at hb
      rcases hb with hb | hb <;> rw [hb] <;> rfl
    have := hend.block
    rw [endLine] at this
    dsimp only at this
    rw [hopen, if_neg Bool.false_ne_true] at this
    cases this

end Track

theorem Grammar.encloses : Grammar.parser.Encloses fun body ↦ .ofList (dedent body) where
  count body := by rw [String.toList_ofList, count_dedent]
  passages {code l f} hl h hf := by
    obtain ⟨d, hd, hparse⟩ := Option.bind_eq_some_iff.mp h
    have hd : d ∈ Dialect.all := by
      cases code with
      | none => exact Option.some.inj hd ▸ List.mem_cons_self
      | some code => exact List.mem_of_find?_eq_some (Option.elim_some .. ▸ hd)
    obtain ⟨hblock, hdocs⟩ := Track.docStrings_of_parse (fairDialect_of_mem d hd) hl hparse hf
    obtain ⟨ps, hps, rfl⟩ := Track.exists_passages hl hblock
    refine ⟨ps, hps, rfl, ?_⟩
    rw [← hdocs, Track.docStrings, start, feed_passages hps, List.nil_append]

end LivingDoc.Gherkin
