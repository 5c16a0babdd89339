import Scaffold.Proofs.Work

/-!
# Sight — which document and which item expressions see

What an expression knows of the document is what its questions are answered from. Some steps see
only one document while they work (`SeesOnly`): all questions of their expressions are asked while
the context holds that one, and whatever else they do has nothing to do with the document. What is
made of evaluations and calls sees only the document that it finds (`Step.Evaluates.sees`,
`Work.Evaluates.sees`), because it leaves that as it is.

An expression can also ask for the current item, and it is this item that it names when it fails.
Some work attends to one item (`AttendsTo`): whenever it evaluates an expression, this item is the
current one, from the beginning of the evaluation to its end, and whatever else it does has nothing to
do with the current item. So it is this item that an error of an expression names
(`Step.AttendsTo.names`, `Work.AttendsTo.names`). Evaluations attend to the item that they find
(`Step.Evaluates.attends`, `Work.Evaluates.attends`), because only what enters another item changes
it.
-/

set_option autoImplicit false

namespace Scaffold

namespace Dialogue

variable {Q : Type} {A : Q → Type} {α σ : Type} {answer : (q : Q) → σ → A q × σ} {P : σ → Prop}

/-- Every question of a dialogue that is led to its end is asked in a state that satisfies the
predicate. -/
def Meets (answer : (q : Q) → σ → A q × σ) (P : σ → Prop) : Dialogue Q A α → σ → Prop
  | .done _, _ => True
  | .ask q next, s => P s ∧ Meets answer P (next (answer q s).1) (answer q s).2

/-- What holds at the beginning and survives every answer holds at every question. -/
theorem meets_of_invariant (hanswer : ∀ q s, P s → P (answer q s).2) (d : Dialogue Q A α) {s : σ}
    (hs : P s) : d.Meets answer P s := by
  induction d generalizing s with
  | done a => trivial
  | ask q next ih => exact ⟨hs, ih _ (hanswer q s hs)⟩

/-- A result that a dialogue can come to. -/
inductive Reaches : Dialogue Q A α → α → Prop
  | done (a : α) : Reaches (.done a) a
  | ask {q : Q} {next : A q → Dialogue Q A α} {a : α} (v : A q) (h : Reaches (next v) a) :
    Reaches (.ask q next) a

/-- What a dialogue ends in at any rate is true of all that it can come to. -/
theorem Yields.of_reaches {R : α → Prop} {d : Dialogue Q A α} {a : α} (h : d.Yields R)
    (hreaches : d.Reaches a) : R a := by
  induction hreaches with
  | done a => exact h
  | ask v _ ih => exact ih (h v)

/-- What follows a dialogue has to end well only for the results that it can come to. -/
theorem Yields.of_bind {β : Type} {S : β → Prop} {d : Dialogue Q A α} {f : α → Dialogue Q A β}
    (hf : ∀ a, d.Reaches a → (f a).Yields S) : (d.bind f).Yields S := by
  induction d with
  | done a => exact hf a (.done a)
  | ask q next ih => exact fun v => ih v fun a h => hf a (.ask v h)

end Dialogue

/-! ## Steps -/

namespace Step

variable {α : Type}

/-- While the step works from a context on, its expressions see one document and no other. -/
inductive SeesOnly (d : Document) : {α : Type} → Step α → Context → Prop
  | blind {α : Type} {x : Step α} (h : x.Blind) (c : Context) : SeesOnly d x c
  | render {template : String} {names : Bindings} {c : Context}
      (h : (Expr.render template names.entries).Meets Context.answer (·.document = d) c) :
      SeesOnly d (render template names) c
  | bind {α β : Type} {x : Step α} {g : α → Step β} {c : Context} (hx : SeesOnly d x c)
      (hg : ∀ a c', x c = (.ok a, c') → SeesOnly d (g a) c') : SeesOnly d (x >>= g) c
  | mapError {α : Type} {x : Step α} {c : Context} (hx : SeesOnly d x c) (f : Error → Error) :
      SeesOnly d (Step.mapError f x) c

/-- Evaluations see the document that they find. -/
theorem Evaluates.sees {τ : Type} {f : Context → τ} {x : Step α} (h : Evaluates f x)
    (c : Context) : SeesOnly c.document x c := by
  induction h generalizing c with
  | quiet hquiet _ => exact .blind hquiet.blind c
  | modify hblind _ => exact .blind hblind c
  | render template names =>
    have hanswer (q : Expr.Question) (c' : Context) (h : c'.document = c.document) :
        (Context.answer q c').2.document = c.document :=
      (congrArg Context.document (answer_lasting q c')).trans h
    exact .render (Dialogue.meets_of_invariant hanswer _ rfl)
  | bind hx _ ihx ihg =>
    refine .bind (ihx c) fun a c' hresult => ?_
    have hsame : c'.document = c.document :=
      (congrArg (·.2.document) hresult).symm.trans (hx.keeps_document c)
    exact hsame ▸ ihg a c'
  | mapError _ _ ih => exact .mapError (ih c) _

end Step

/-! ## Work -/

namespace Work

/-- While the work goes on from a context, its expressions see one document and no other, whatever
its calls are answered, and so does all that it reads off the context itself. -/
inductive SeesOnly (d : Document) : {α : Type} → Work α → Context → Prop
  | ofStep {α : Type} {x : Step α} {c : Context} (h : x.SeesOnly d c) :
      SeesOnly d (Work.ofStep x) c
  | ofSystem {α : Type} (x : System (Except Error α)) (c : Context) :
      SeesOnly d (Work.ofSystem x) c
  | get {c : Context} (h : c.document = d) : SeesOnly d Work.get c
  | bind {α β : Type} {x : Work α} {g : α → Work β} {c : Context} (hx : SeesOnly d x c)
      (hg : ∀ a c', (x c).Reaches (.ok a, c') → SeesOnly d (g a) c') : SeesOnly d (x >>= g) c
  | settle {α : Type} {x : Work α} {g : Context → Context} {c : Context} (hx : SeesOnly d x c)
      (hg : (Step.modify g).Blind) : SeesOnly d (Work.settle x g) c

/-- Evaluations and calls see the document that they find. -/
theorem Evaluates.sees {α τ : Type} {f : Context → τ} {x : Work α} (h : Evaluates f x)
    (c : Context) : SeesOnly c.document x c := by
  induction h generalizing c with
  | ofStep h => exact .ofStep (h.sees c)
  | ofSystem => exact .ofSystem _ c
  | get => exact .get rfl
  | bind hx _ ihx ihg =>
    refine .bind (ihx c) fun a c' hreaches => ?_
    have hsame : c'.document = c.document := (hx.keeps_document c).of_reaches hreaches
    exact hsame ▸ ihg a c'
  | settle _ hblind _ ih => exact .settle (ih c) hblind

end Work

/-! ## The current item -/

/-- The item that is being worked on. -/
def Context.item (c : Context) : Phase × String := (c.phase, c.name)

/-- If the error is that of an expression, it names the item; without an item it is none. -/
def Error.Names (item : Option (Phase × String)) : Error → Prop
  | .expression name _ => item.map Prod.snd = some name
  | _ => True

theorem Error.NotOfExpression.names {item : Option (Phase × String)} {e : Error}
    (h : e.NotOfExpression) : e.Names item := by
  cases e with
  | expression => exact h.elim
  | _ => trivial

/-! ### Steps -/

namespace Step

variable {item : Option (Phase × String)}

/-- While the step works from a context on, every expression that it evaluates is evaluated for one
item. Without an item, none is evaluated. -/
inductive AttendsTo (item : Option (Phase × String)) : {α : Type} → Step α → Context → Prop
  | quiet {α : Type} {x : Step α} (h : x.Quiet) (c : Context) : AttendsTo item x c
  | modify (g : Context → Context) (c : Context) : AttendsTo item (Step.modify g) c
  | render {template : String} {names : Bindings} {c : Context} (hbegin : some c.item = item)
      (h : (Expr.render template names.entries).Meets Context.answer (some ·.item = item) c) :
      AttendsTo item (render template names) c
  | bind {α β : Type} {x : Step α} {g : α → Step β} {c : Context} (hx : AttendsTo item x c)
      (hg : ∀ a c', x c = (.ok a, c') → AttendsTo item (g a) c') : AttendsTo item (x >>= g) c
  | mapError {α : Type} {x : Step α} {c : Context} (hx : AttendsTo item x c) {f : Error → Error}
      (hf : Rewords f) : AttendsTo item (Step.mapError f x) c

/-- The error of an evaluation names the item that is current at its beginning. -/
theorem render_names (template : String) (names : Bindings) (c : Context) :
    ErrorIn (Error.Names (some c.item)) (render template names c).1 := by
  have hlasting := Dialogue.run_keeps answer_lasting (Expr.render template names.entries) c
  have hname : ((Expr.render template names.entries).run Context.answer c).2.name = c.name :=
    (congrArg (·.name) hlasting :)
  rw [render]
  split
  next => trivial
  next h =>
    rw [h] at hname
    exact congrArg some hname.symm
  next h =>
    rw [h] at hname
    split
    · exact congrArg some hname.symm
    · trivial

/-- The error of an expression names the item that the step attends to. -/
theorem AttendsTo.names {α : Type} {x : Step α} {c : Context} (h : AttendsTo item x c) :
    ErrorIn (Error.Names item) (x c).1 := by
  induction h with
  | quiet hquiet c => exact (hquiet.mute c).mono fun _ he => he.names
  | modify g c => trivial
  | render hbegin _ =>
    subst hbegin
    exact render_names _ _ _
  | @bind α β x g c _ _ ihx ihg =>
    change ErrorIn (Error.Names item) (Step.bind x g c).1
    rw [Step.bind]
    cases hresult : x c with
    | mk result c' =>
      rw [hresult] at ihx
      cases result with
      | ok a => exact ihg a c' hresult
      | error e => exact ihx
  | @mapError α x c _ f hf ih =>
    rw [Step.mapError]
    cases hresult : x c with
    | mk result c' =>
      rw [hresult] at ih
      cases result with
      | ok a => trivial
      | error e =>
        cases hworded : f e with
        | expression name reason =>
          rw [hf e name reason hworded] at ih
          change Error.Names item (f e)
          rw [hworded]
          exact ih
        | _ =>
          change Error.Names item (f e)
          rw [hworded]
          trivial

/-- Evaluations attend to the item that they find. -/
theorem Evaluates.attends {α : Type} {x : Step α} (h : Evaluates Context.item x) (c : Context) :
    AttendsTo (some c.item) x c := by
  induction h generalizing c with
  | quiet hquiet _ => exact .quiet hquiet c
  | modify _ _ => exact .modify _ c
  | render template names =>
    have hanswer (q : Expr.Question) (c' : Context) (h : some c'.item = some c.item) :
        some (Context.answer q c').2.item = some c.item :=
      (congrArg (some ·.item) (answer_lasting q c')).trans h
    exact .render rfl (Dialogue.meets_of_invariant hanswer _ rfl)
  | bind hx _ ihx ihg =>
    refine .bind (ihx c) fun a c' hresult => ?_
    have hsame : c'.item = c.item :=
      (congrArg (·.2.item) hresult).symm.trans (hx.keeps (fun _ => rfl) c)
    exact hsame ▸ ihg a c'
  | mapError _ hg ih => exact .mapError (ih c) hg

end Step

/-! ### Work -/

namespace Work

variable {α β : Type} {item : Option (Phase × String)}

/-- While the work goes on from a context, every expression that it evaluates is evaluated for one
item, whatever its calls are answered. Without an item, none is evaluated. -/
inductive AttendsTo (item : Option (Phase × String)) : {α : Type} → Work α → Context → Prop
  | ofStep {α : Type} {x : Step α} {c : Context} (h : x.AttendsTo item c) :
      AttendsTo item (Work.ofStep x) c
  | ofSystem {α : Type} {x : System (Except Error α)}
      (hmute : x.Yields (ErrorIn Error.NotOfExpression)) (c : Context) :
      AttendsTo item (Work.ofSystem x) c
  | get (c : Context) : AttendsTo item Work.get c
  | bind {α β : Type} {x : Work α} {g : α → Work β} {c : Context} (hx : AttendsTo item x c)
      (hg : ∀ a c', (x c).Reaches (.ok a, c') → AttendsTo item (g a) c') : AttendsTo item (x >>= g) c
  | settle {α : Type} {x : Work α} {c : Context} (hx : AttendsTo item x c)
      (g : Context → Context) : AttendsTo item (Work.settle x g) c

/-- Whatever its calls are answered, the error of an expression names the item that the work attends
to. -/
theorem AttendsTo.names {x : Work α} {c : Context} (h : AttendsTo item x c) :
    (x c).Yields fun r => ErrorIn (Error.Names item) r.1 := by
  induction h with
  | ofStep h => exact h.names
  | ofSystem hmute c => exact hmute.bind fun _ hr => hr.mono fun _ he => he.names
  | get c => trivial
  | @bind α β x g c _ _ ihx ihg =>
    refine Dialogue.Yields.of_bind fun r hreaches => ?_
    have hr := ihx.of_reaches hreaches
    obtain ⟨result, c'⟩ := r
    cases result with
    | ok a => exact ihg a c' hreaches
    | error e => exact hr
  | settle _ g ih => exact ih.bind fun _ hr => hr

/-- Evaluations and calls attend to the item that they find. -/
theorem Evaluates.attends {x : Work α} (h : Evaluates Context.item x) (c : Context) :
    AttendsTo (some c.item) x c := by
  induction h generalizing c with
  | ofStep h => exact .ofStep (h.attends c)
  | ofSystem hmute => exact .ofSystem hmute c
  | get => exact .get c
  | bind hx _ ihx ihg =>
    refine .bind (ihx c) fun a c' hreaches => ?_
    have hsame : c'.item = c.item := (hx.keeps (fun _ => rfl) c).of_reaches hreaches
    exact hsame ▸ ihg a c'
  | settle _ _ _ ih => exact .settle (ih c) _

theorem attendsTo_pure (a : α) (c : Context) : AttendsTo item (pure a : Work α) c :=
  .ofStep (.quiet (Step.quiet_pure a) c)

theorem attendsTo_modify (g : Context → Context) (c : Context) :
    AttendsTo item (Work.modify g) c :=
  .ofStep (.modify g c)

theorem attendsTo_report (block message : String) (c : Context) :
    AttendsTo item (Work.report block message) c := by
  rw [Work.report]
  refine .ofSystem ?_ c
  exact fun _ => trivial

/-- What is read off the context is read off the one that is there. -/
theorem AttendsTo.get_bind {g : Context → Work β} {c : Context} (h : AttendsTo item (g c) c) :
    AttendsTo item (Work.get >>= g) c := by
  refine .bind (.get c) fun a c' hreaches => ?_
  cases hreaches
  exact h

/-- What follows a change of the context goes on from the changed one. -/
theorem AttendsTo.modify_bind {f : Context → Context} {g : Unit → Work β} {c : Context}
    (h : AttendsTo item (g ()) (f c)) : AttendsTo item (Work.modify f >>= g) c := by
  refine .bind (attendsTo_modify f c) fun a c' hreaches => ?_
  cases hreaches
  exact h

end Work

end Scaffold
