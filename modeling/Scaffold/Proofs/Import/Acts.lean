import Scaffold.Proofs.Dialogue
import Scaffold.Proofs.Document.Composition

/-!
# Acts — what a load does that can be seen

Whatever a loader is, a load does three things that can be seen: it turns to a document, asks what
it is called, and fetches it. `enact` is a load made of nothing else; what becomes of an act is a
question there. Every loader answers these questions in its own way, and loads as it answers them
(`load_eq_lead`).
-/

set_option autoImplicit false

namespace Scaffold

namespace Loader

/-! ## A load made of acts -/

/-- What a load does that can be seen. -/
inductive Act
  /-- It turns to a document, and finds this chain. -/
  | call (chain : List String) (source : Source)
  | identity (source : Source)
  | fetch (source : Source)
  deriving DecidableEq

/-- The source of a document that is fetched. -/
def Act.fetched? : Act → Option Source
  | .fetch source => some source
  | _ => none

/-- What comes of an act. -/
abbrev Act.Answer : Act → Type
  | .call .. => Unit
  | .identity _ => String
  | .fetch _ => Except Error Bytes

/-- The loader for which everything is a question. -/
def asking : Loader (Dialogue Act Act.Answer) where
  fetch source := .put (Act.fetch source)
  identity source := .put (Act.identity source)

/-- Turns to a document. -/
def turn (chain : List String) (source : Source) : Dialogue Act Act.Answer Unit :=
  .put (Act.call chain source)

/-- Loads a document like `loadWithin`, act by act. -/
def enact : Nat → Source → StateT (List String) (Dialogue Act Act.Answer) (Except Error Document)
  | 0, source => do
    turn (← get) source
    return .error .aborted
  | room + 1, source => do
    turn (← get) source
    let identity ← asking.identity source
    let chain ← get
    if chain.contains identity then return .error (cycle source chain identity)
    else
      match ← asking.read source with
      | .error e => return .error (if chain.isEmpty then e else importError source e)
      | .ok document =>
        if document.imports.isEmpty then return .ok document
        else
          set (chain ++ [identity])
          let below (locator : String) :
              StateT (List String) (Dialogue Act Act.Answer) (Except Error Document) :=
            enact room (source.resolve locator)
          match ← untilError below document.imports with
          | .error e => return .error e
          | .ok imported =>
            modify List.dropLast
            return .ok (Document.compose imported document)

/-- What comes of the imports of a document, and the chain without the document. -/
def composed (document : Document) : Except Error (List Document) × List String →
    Except Error Document × List String
  | (.error e, left) => (.error e, left)
  | (.ok imported, left) => (.ok (Document.compose imported document), left.dropLast)

/-- The acts of a load of a document, one by one. A document without imports is put on the chain
here too, which makes no difference. -/
theorem run_enact_succ (room : Nat) (chain : List String) (source : Source) :
    (enact (room + 1) source).run chain =
      .ask (Act.call chain source) fun _ => .ask (Act.identity source) fun identity =>
        if identity ∈ chain then .done (.error (cycle source chain identity), chain)
        else .ask (Act.fetch source) fun content =>
          match content >>= Document.ofBytes with
          | .error e => .done (.error (if chain.isEmpty then e else importError source e), chain)
          | .ok document =>
            ((untilError (fun locator => enact room (source.resolve locator))
              document.imports).run (chain ++ [identity])).bind (.done ∘ composed document) := by
  refine congrArg (Dialogue.ask _) (funext fun _ => ?_)
  refine congrArg (Dialogue.ask _) (funext fun identity => ?_)
  change StateT.run (ite _ _ _) chain = _
  by_cases hmem : identity ∈ chain
  · rw [if_pos hmem, if_pos (List.contains_iff_mem.2 hmem)]
    rfl
  rw [if_neg hmem, if_neg (mt List.contains_iff_mem.1 hmem)]
  refine congrArg (Dialogue.ask _) (funext fun content => ?_)
  simp only [Dialogue.bind, pure]
  cases content >>= Document.ofBytes with
  | error e => rfl
  | ok document =>
    dsimp only
    by_cases hleaf : document.imports.isEmpty = true
    -- the document is composed of itself alone, and taken off the chain that it was put on
    · have hcomposed : composed document (.ok [], chain ++ [identity]) = (.ok document, chain) := by
        rw [composed, Document.compose_nil, List.dropLast_concat]
      rw [if_pos hleaf, List.isEmpty_iff.1 hleaf]
      exact congrArg Dialogue.done hcomposed.symm
    · rw [if_neg hleaf]
      refine congrArg (Dialogue.bind ((untilError (fun locator =>
        enact room (source.resolve locator)) document.imports).run (chain ++ [identity])))
          (funext ?_)
      rintro ⟨e | imported, left⟩
      · rfl
      · rfl

/-! ## What acts come to -/

section Results

variable {P : Document → Prop}

/-- Where each result has a property, all results of a row have it. -/
theorem untilError_yields {α β : Type} {Q : β → Prop}
    {f : α → StateT (List String) (Dialogue Act Act.Answer) (Except Error β)}
    (h : ∀ a chain, ((f a).run chain).Yields fun r => ∀ b, r.1 = .ok b → Q b) (as : List α)
    (chain : List String) :
    ((untilError f as).run chain).Yields fun r => ∀ bs, r.1 = .ok bs → ∀ b ∈ bs, Q b := by
  induction as generalizing chain with
  | nil =>
    intro bs hbs b hmem
    cases hbs
    cases hmem
  | cons a as ih =>
    rw [untilError, StateT.run_bind]
    refine (h a chain).bind ?_
    rintro ⟨e | b, left⟩ hb
    · intro bs hbs
      cases hbs
    dsimp only
    rw [StateT.run_bind]
    refine (ih left).bind ?_
    rintro ⟨e | bs, left'⟩ hbs
    · intro all hall
      cases hall
    · intro all hall b' hmem
      cases hall
      rcases List.mem_cons.1 hmem with rfl | hmem
      · exact hb b' rfl
      · exact hbs bs rfl b' hmem

/-- What is true of every document that is read, and of what is composed of documents of which it is
true, is true of every document that is loaded, whatever it imports. -/
theorem enact_yields (hread : ∀ content d, Document.ofBytes content = .ok d → P d)
    (hcompose : ∀ imported d, (∀ i ∈ imported, P i) → P d → P (Document.compose imported d))
    (room : Nat) (chain : List String) (source : Source) :
    ((enact room source).run chain).Yields fun r => ∀ d, r.1 = .ok d → P d := by
  induction room generalizing chain source with
  | zero => exact fun _ => nofun
  | succ room ih =>
    rw [run_enact_succ]
    intro _ identity
    dsimp only
    split
    · intro d hd
      cases hd
    intro content
    dsimp only
    cases hcontent : content >>= Document.ofBytes with
    | error e => exact nofun
    | ok document =>
      have hdocument : P document := by
        cases content with
        | error e => cases hcontent
        | ok bytes => exact hread bytes document hcontent
      refine (untilError_yields (fun locator chain => ih chain (source.resolve locator))
        document.imports (chain ++ [identity])).bind ?_
      rintro ⟨e | imported, left⟩ himported
      · exact nofun
      · intro d hd
        cases hd
        exact hcompose imported document (himported imported rfl) hdocument

end Results

/-! ## What loaders make of acts -/

section Acting

variable {m : Type → Type} [Monad m] (l : Loader m)

/-- How a loader acts. To turn to a document is nothing to it. -/
def act : (a : Act) → m a.Answer
  | .call .. => pure ()
  | .identity source => l.identity source
  | .fetch source => l.fetch source

variable {l}

theorem untilError_eq_lead [LawfulMonad m] {γ β : Type}
    {f : γ → StateT (List String) m (Except Error β)}
    {g : γ → StateT (List String) (Dialogue Act Act.Answer) (Except Error β)}
    (h : ∀ c chain, (f c).run chain = ((g c).run chain).lead l.act) (cs : List γ)
    (chain : List String) :
    (untilError f cs).run chain = ((untilError g cs).run chain).lead l.act := by
  induction cs generalizing chain with
  | nil => rfl
  | cons c cs ih =>
    refine Eq.trans ?_ (Dialogue.lead_bind l.act ((g c).run chain) _).symm
    rw [untilError, StateT.run_bind, h]
    refine bind_congr ?_
    rintro ⟨e | b, left⟩
    · rfl
    refine Eq.trans ?_ (Dialogue.lead_bind l.act ((untilError g cs).run left) _).symm
    dsimp only
    rw [StateT.run_bind, ih]
    refine bind_congr ?_
    rintro ⟨e | bs, left⟩
    · rfl
    · rfl

variable (l)

/-- Every loader loads as it is made to act. -/
theorem loadWithin_eq_lead [LawfulMonad m] (room : Nat) (chain : List String) (source : Source) :
    (l.loadWithin room source).run chain = ((enact room source).run chain).lead l.act := by
  induction room generalizing chain source with
  | zero =>
    rw [enact, loadWithin]
    exact (LawfulMonad.pure_bind () fun _ => pure (Except.error Error.aborted, chain)).symm
  | succ room ih =>
    -- `loadComposing` puts every document on the chain, as the right side does
    rw [run_enact_succ, ← loadComposing_eq, loadComposing,
      funext fun locator => l.loadComposing_eq room (source.resolve locator)]
    simp only [Dialogue.lead, act, pure_bind, StateT.run_bind, liftM, StateT.run_monadLift,
      monadLift_self, bind_assoc, StateT.run_get, read]
    refine bind_congr fun identity => ?_
    by_cases hmem : identity ∈ chain
    · rw [if_pos hmem, if_pos (List.contains_iff_mem.2 hmem)]
      rfl
    rw [if_neg hmem, if_neg (mt List.contains_iff_mem.1 hmem)]
    simp only [Dialogue.lead, act, StateT.run_bind, StateT.run_monadLift, monadLift_self,
      bind_assoc, pure_bind]
    refine bind_congr fun content => ?_
    cases content >>= Document.ofBytes with
    | error e => rfl
    | ok document =>
      have himports := untilError_eq_lead (fun locator chain => ih chain (source.resolve locator))
        document.imports (chain ++ [identity])
      dsimp only
      rw [Dialogue.lead_bind, StateT.run_bind, StateT.run_set, pure_bind, StateT.run_bind, himports]
      refine bind_congr ?_
      rintro ⟨e | imported, left⟩
      · rfl
      · dsimp only
        rw [StateT.run_bind, StateT.run_modify, pure_bind]
        rfl

/-- Every loader loads as it acts. -/
theorem load_eq_lead [LawfulMonad m] (source : Source) (room : Nat) :
    l.load source room = Prod.fst <$> ((enact room source).run []).lead l.act :=
  congrArg (Prod.fst <$> ·) (l.loadWithin_eq_lead room [] source)

end Acting

section States

variable {σ : Type} (l : Loader (StateM σ))

/-- What comes of an act in a state. -/
def answer (a : Act) (s : σ) : a.Answer × σ := (l.act a).run s

/-- What a load does, act after act. -/
def acts (room : Nat) (source : Source) (s : σ) : List Act :=
  ((enact room source).run []).asked l.answer s

theorem run_load (source : Source) (room : Nat) (s : σ) :
    (l.load source room).run s =
      ((((enact room source).run []).run l.answer s).1.1,
        (((enact room source).run []).run l.answer s).2) := by
  rw [load_eq_lead]
  exact congrArg (fun r : (Except Error Document × List String) × σ => (r.1.1, r.2))
    (Dialogue.run_lead l.act _ s)

/-- What is true of everything that is read and composed is true of what a loader loads. -/
theorem load_gives {P : Document → Prop}
    (hread : ∀ content d, Document.ofBytes content = .ok d → P d)
    (hcompose : ∀ imported d, (∀ i ∈ imported, P i) → P d → P (Document.compose imported d))
    {source : Source} {room : Nat} {s : σ} {d : Document}
    (h : ((l.load source room).run s).1 = .ok d) : P d := by
  rw [run_load] at h
  exact (enact_yields hread hcompose room [] source).run s d h

end States

end Loader

end Scaffold
