import CodeAtlas.Script.Grammar.Statement
import Mathlib.Tactic

/-!
# Where import statements are read

Every statement on the top level of a script is read at an end of its tokens. If it is an import, the
first of these tokens is its keyword, and behind it come the names that the statement keeps: names of
modules are made of the identifiers that stand there, with dots between them.
-/

namespace CodeAtlas.Script

open CodeAtlas.Text

namespace Reader

variable {α β : Type} {p : Reader α} {f : α → Reader β} {s s' : Input} {b : β}

lemma run_bind_iff : (p >>= f).run s = some (b, s') ↔
    ∃ a s₁, p.run s = some (a, s₁) ∧ (f a).run s₁ = some (b, s') := by
  constructor
  · intro h
    obtain ⟨⟨a, s₁⟩, hp, hf⟩ := Option.bind_eq_some_iff.mp h
    exact ⟨a, s₁, hp, hf⟩
  · rintro ⟨a, s₁, hp, hf⟩
    exact Option.bind_eq_some_iff.mpr ⟨(a, s₁), hp, hf⟩

/-! ### What a reader can give -/

/-- Whatever the reader gives has the property. -/
def Gives (p : Reader α) (P : α → Prop) : Prop :=
  ∀ s a s', p.run s = some (a, s') → P a

lemma Gives.bind {P : β → Prop} (h : ∀ a, Gives (f a) P) : Gives (p >>= f) P := by
  intro s b s' hrun
  obtain ⟨a, s₁, _, hf⟩ := run_bind_iff.mp hrun
  exact h a s₁ b s' hf

lemma gives_failure {P : α → Prop} : Gives (failure : Reader α) P := by
  intro s a s' h
  cases h

lemma Gives.ite {P : α → Prop} {q : Reader α} {c : Prop} [Decidable c] (hp : Gives p P)
    (hq : Gives q P) : Gives (if c then p else q) P := by
  split
  · exact hp
  · exact hq

/-! ### Tokens -/

lemma tokens_of_next {l : Lexeme} (h : next.run s = some (l, s')) :
    ∃ t ts, s.tokens = t :: ts ∧ t.lexeme = l ∧ s' = s.pass t ts := by
  unfold next at h
  dsimp only at h
  split at h
  · cases h
  · rename_i t ts htokens
    cases h
    exact ⟨t, ts, htokens, rfl, rfl⟩

lemma token_of_peek {l : Lexeme} (h : peek.run s = some (l, s')) :
    s = s' ∧ (l = .finish ∨ ∃ t ts, s.tokens = t :: ts ∧ t.lexeme = l) := by
  cases h
  refine ⟨rfl, ?_⟩
  dsimp only
  cases s.tokens with
  | nil => exact .inl rfl
  | cons t ts => exact .inr ⟨t, ts, rfl, rfl⟩

lemma start_of_here {start : Position} (h : here.run s = some (start, s')) :
    s = s' ∧ ∀ t ts, s.tokens = t :: ts → start = t.span.start := by
  cases h
  refine ⟨rfl, fun t ts htokens => ?_⟩
  simp only [htokens]

lemma tokens_of_expect {l : Lexeme} (h : (expect l).run s = some ((), s')) :
    ∃ t ts, s.tokens = t :: ts ∧ t.lexeme = l ∧ s' = s.pass t ts := by
  obtain ⟨l', s₁, hnext, h⟩ := run_bind_iff.mp h
  obtain ⟨t, ts, htokens, rfl, rfl⟩ := tokens_of_next hnext
  split at h
  · cases h
    exact ⟨t, ts, htokens, ‹_›, rfl⟩
  · cases h

lemma tokens_of_name {n : String} (h : name.run s = some (n, s')) :
    ∃ t ts spelling identifier, s.tokens = t :: ts ∧ t.lexeme = .name spelling identifier ∧
      identifier.text = n ∧ s' = s.pass t ts := by
  obtain ⟨identifier, s₁, hidentifier, h⟩ := run_bind_iff.mp h
  cases h
  obtain ⟨l, s₂, hnext, h⟩ := run_bind_iff.mp hidentifier
  obtain ⟨t, ts, htokens, rfl, rfl⟩ := tokens_of_next hnext
  split at h
  · rename_i spelling identifier' hname
    cases h
    exact ⟨t, ts, spelling, identifier, htokens, hname, rfl, rfl⟩
  · cases h

lemma eq_of_atWord {w : String} {yes : Bool} (h : (atWord w).run s = some (yes, s')) : s = s' := by
  cases h
  rfl

/-- A part inside further rules is read at the same tokens. -/
lemma run_of_within {n : Nat} {a : α} (h : (within n p).run s = some (a, s')) :
    ∃ t t', t.tokens = s.tokens ∧ p.run t = some (a, t') := by
  obtain ⟨⟨b, t'⟩, hp, hb⟩ := Option.map_eq_some_iff.mp h
  cases hb
  refine ⟨_, t', ?_, hp⟩
  rfl

/-! ### Repetitions -/

lemma run_of_attempt {a : α} (h : (attempt p).run s = some (some a, s')) : p.run s = some (a, s') := by
  unfold attempt at h
  dsimp only at h
  split at h
  · rename_i hp
    cases h
    exact hp
  · cases h

lemma eq_of_attempt (h : (attempt p).run s = some (none, s')) : s' = s := by
  unfold attempt at h
  dsimp only at h
  split at h
  · cases h
  · cases h
    rfl

/-- Whatever is read in a repetition is read at an end of the tokens. -/
lemma mem_repeatUpTo {a : α} {n : Nat} {as : List α} (h : (repeatUpTo p n).run s = some (as, s'))
    (ha : a ∈ as) : ∃ t t', t.tokens <:+ s.tokens ∧ p.run t = some (a, t') := by
  induction n generalizing s as with
  | zero =>
    cases h
    cases ha
  | succ n ih =>
    obtain ⟨first, s₁, hfirst, h⟩ := run_bind_iff.mp h
    cases first with
    | none =>
      cases h
      cases ha
    | some b =>
      obtain ⟨more, s₂, hmore, h⟩ := run_bind_iff.mp h
      cases h
      rcases List.mem_cons.mp ha with rfl | ha
      · exact ⟨s, s₁, List.suffix_refl _, run_of_attempt hfirst⟩
      · obtain ⟨t, t', ht, hrun⟩ := ih hmore ha
        exact ⟨t, t', ht.trans ((attempt p).leaves hfirst), hrun⟩

lemma mem_many {a : α} {as : List α} (h : (many p).run s = some (as, s')) (ha : a ∈ as) :
    ∃ t t', t.tokens <:+ s.tokens ∧ p.run t = some (a, t') := by
  obtain ⟨n, s₁, hlimit, h⟩ := run_bind_iff.mp h
  cases hlimit
  exact mem_repeatUpTo h ha

end Reader

open Reader

/-! ### Names of modules -/

/-- Lexemes that go on with a module's name: a dot in front of every further identifier. -/
inductive GoesOn : List Lexeme → List Identifier → Prop where
  | nil : GoesOn [] []
  | cons (spelling : String) (identifier : Identifier) {ls : List Lexeme} {ids : List Identifier} :
    GoesOn ls ids → GoesOn (.op "." :: .name spelling identifier :: ls) (identifier :: ids)

/-- The name of a module with the given identifiers. -/
def moduleText (ids : List Identifier) : String :=
  ".".intercalate (ids.map (·.text))

lemma toList_moduleText (id : Identifier) (ids : List Identifier) :
    (moduleText (id :: ids)).toList = id.text.toList ++ ids.flatMap fun i => '.' :: i.text.toList := by
  induction ids generalizing id with
  | nil => simp [moduleText]
  | cons i ids ih =>
    have hmore : moduleText (id :: i :: ids) = id.text ++ "." ++ moduleText (i :: ids) :=
      String.intercalate_cons_cons
    rw [hmore, String.toList_append, String.toList_append, ih, List.flatMap_cons, List.append_assoc]
    rfl

lemma goesOn_of_repeatUpTo {n : Nat} {s s' : Input} {more : List String}
    (h : (repeatUpTo (do op "."; name) n).run s = some (more, s')) :
    ∃ used ids, s.tokens = used ++ s'.tokens ∧ GoesOn (used.map (·.lexeme)) ids ∧
      more = ids.map (·.text) := by
  induction n generalizing s more with
  | zero =>
    cases h
    exact ⟨[], [], rfl, .nil, rfl⟩
  | succ n ih =>
    obtain ⟨first, s₁, hfirst, h⟩ := run_bind_iff.mp h
    cases first with
    | none =>
      cases h
      rw [eq_of_attempt hfirst]
      exact ⟨[], [], rfl, .nil, rfl⟩
    | some m =>
      obtain ⟨ms, s₂, hmore, h⟩ := run_bind_iff.mp h
      cases h
      obtain ⟨_, s₃, hdot, hname⟩ := run_bind_iff.mp (run_of_attempt hfirst)
      obtain ⟨t, ts, hs, ht, rfl⟩ := tokens_of_expect hdot
      obtain ⟨u, us, spelling, identifier, hts, hu, rfl, rfl⟩ := tokens_of_name hname
      obtain ⟨used, ids, hused, hgoes, rfl⟩ := ih hmore
      refine ⟨t :: u :: used, identifier :: ids, ?_, ?_, rfl⟩
      · rw [hs, show ts = u :: us from hts, show us = used ++ s'.tokens from hused]
        rfl
      · rw [List.map_cons, List.map_cons, ht, hu]
        exact .cons spelling identifier hgoes

/-- A module's name is read off a name and what goes on with it. -/
theorem tokens_of_moduleName {s s' : Input} {m : String} (h : moduleName.run s = some (m, s')) :
    ∃ t used spelling identifier ids, s.tokens = t :: used ++ s'.tokens ∧
      t.lexeme = .name spelling identifier ∧ GoesOn (used.map (·.lexeme)) ids ∧
      m = moduleText (identifier :: ids) := by
  obtain ⟨first, s₁, hname, h⟩ := run_bind_iff.mp h
  obtain ⟨more, s₂, hmore, h⟩ := run_bind_iff.mp h
  cases h
  obtain ⟨n, s₃, hlimit, hmore⟩ := run_bind_iff.mp hmore
  cases hlimit
  obtain ⟨t, ts, spelling, identifier, hs, ht, rfl, rfl⟩ := tokens_of_name hname
  obtain ⟨used, ids, hused, hgoes, rfl⟩ := goesOn_of_repeatUpTo hmore
  refine ⟨t, used, spelling, identifier, ids, ?_, ht, hgoes, rfl⟩
  rw [hs, show ts = used ++ s'.tokens from hused]
  rfl

/-! ### Import statements -/

section Imports

variable {start : Position} {s s' : Input} {n : Node}

lemma kind_of_finish {statement : Statement} {children : List Node}
    (h : (finish start statement children).run s = some (n, s')) :
    ∃ stop, n.kind = .statement statement ⟨start, stop⟩ := by
  obtain ⟨span, s₁, hspan, h⟩ := run_bind_iff.mp h
  cases hspan
  cases h
  exact ⟨_, rfl⟩

lemma name_of_alias {a : Alias}
    (h : (do let m ← moduleName; return (⟨m, ← asName⟩ : Alias)).run s = some (a, s')) :
    ∃ s₁, moduleName.run s = some (a.name, s₁) := by
  obtain ⟨m, s₁, hname, h⟩ := run_bind_iff.mp h
  obtain ⟨other, s₂, _, h⟩ := run_bind_iff.mp h
  cases h
  exact ⟨s₁, hname⟩

/-- Behind the keyword of an import of modules stands the name of the first one. -/
theorem tokens_of_importModules (h : (importModules start).run s = some (n, s')) :
    ∃ u us spelling identifier ids as names stop, s.tokens = u :: us ∧
      u.lexeme = .name spelling identifier ∧
      n.kind = .statement (.importModules (⟨moduleText (identifier :: ids), as⟩ :: names)) ⟨start, stop⟩ ∧
      ∀ a ∈ names, ∃ id ids, a.name = moduleText (id :: ids) := by
  obtain ⟨names, s₁, hnames, h⟩ := run_bind_iff.mp h
  obtain ⟨stop, hkind⟩ := kind_of_finish h
  obtain ⟨first, s₂, hfirst, hnames⟩ := run_bind_iff.mp hnames
  obtain ⟨more, s₃, hmore, hnames⟩ := run_bind_iff.mp hnames
  cases hnames
  obtain ⟨s₄, hname⟩ := name_of_alias hfirst
  obtain ⟨u, used, spelling, identifier, ids, htokens, hu, _, hm⟩ := tokens_of_moduleName hname
  refine ⟨u, used ++ s₄.tokens, spelling, identifier, ids, first.asName, more, stop, htokens, hu, ?_, ?_⟩
  · rw [hkind, ← hm]
  · intro a ha
    obtain ⟨t, t', _, hrun⟩ := mem_many hmore ha
    obtain ⟨_, t₁, _, hrun⟩ := run_bind_iff.mp hrun
    obtain ⟨_, _, _, halias⟩ := run_of_within hrun
    obtain ⟨t₂, hname⟩ := name_of_alias halias
    obtain ⟨_, _, _, identifier, ids, _, _, _, hm⟩ := tokens_of_moduleName hname
    exact ⟨identifier, ids, hm⟩

/-- Where no dots stand, none are read. -/
lemma leadingDots_of_head {dots : Nat} (h : leadingDots.run s = some (dots, s'))
    (hhead : ∀ t ∈ s.tokens.head?, ∀ symbol, t.lexeme ≠ .op symbol) : dots = 0 ∧ s' = s := by
  obtain ⟨found, s₁, hfound, h⟩ := run_bind_iff.mp h
  cases h
  obtain ⟨n, s₂, hlimit, hfound⟩ := run_bind_iff.mp hfound
  cases hlimit
  cases hn : s.limit with
  | zero =>
    rw [show Input.limit s = 0 from hn] at hfound
    cases hfound
    exact ⟨rfl, rfl⟩
  | succ n =>
    rw [show Input.limit s = n + 1 from hn] at hfound
    obtain ⟨first, s₃, hfirst, hfound⟩ := run_bind_iff.mp hfound
    cases first with
    | none =>
      cases hfound
      exact ⟨rfl, eq_of_attempt hfirst⟩
    | some a =>
      obtain ⟨l, s₄, hnext, hdots⟩ := run_bind_iff.mp (run_of_attempt hfirst)
      obtain ⟨t, ts, htokens, rfl, rfl⟩ := tokens_of_next hnext
      have hnone : ∀ symbol, t.lexeme ≠ .op symbol := hhead t (by rw [htokens]; rfl)
      split at hdots
      · exact absurd ‹_› (hnone _)
      · exact absurd ‹_› (hnone _)
      · cases hdots

/-- What stands behind the module of an import: the keyword in front of the imported names. -/
lemma tokens_behind_source {source : Option String} {dots : Nat}
    (h : (do
      guardThat (source.isSome || dots != 0)
      word "import"
      let names ← importedNames
      finish start (.importFrom source names) []).run s = some (n, s')) :
    (source.isSome || dots != 0) = true ∧ ∃ k rest names stop, s.tokens = k :: rest ∧
      k.lexeme = .keyword "import" ∧ n.kind = .statement (.importFrom source names) ⟨start, stop⟩ := by
  obtain ⟨_, s₁, hguard, h⟩ := run_bind_iff.mp h
  obtain ⟨_, s₂, hword, h⟩ := run_bind_iff.mp h
  obtain ⟨names, s₃, _, h⟩ := run_bind_iff.mp h
  obtain ⟨stop, hkind⟩ := kind_of_finish h
  obtain ⟨k, rest, htokens, hk, _⟩ := tokens_of_expect hword
  unfold guardThat at hguard
  split at hguard
  · cases hguard
    exact ⟨‹_›, k, rest, names, stop, htokens, hk, hkind⟩
  · cases hguard

/-- Behind the keyword of an import from a module stand dots or the module's name, and the keyword in
front of the names that are imported. -/
theorem tokens_of_importFrom (h : (importFrom start).run s = some (n, s')) :
    ∃ source names stop, n.kind = .statement (.importFrom source names) ⟨start, stop⟩ ∧
      (∀ m ∈ source, ∃ id ids, m = moduleText (id :: ids)) ∧
      ((∀ t ∈ s.tokens.head?, ∀ symbol, t.lexeme ≠ .op symbol) →
        ∃ u used k rest spelling identifier ids, s.tokens = u :: used ++ k :: rest ∧
          u.lexeme = .name spelling identifier ∧ GoesOn (used.map (·.lexeme)) ids ∧
          k.lexeme = .keyword "import" ∧ source = some (moduleText (identifier :: ids))) := by
  obtain ⟨dots, s₁, hdots, h⟩ := run_bind_iff.mp h
  obtain ⟨bare, s₂, hbare, h⟩ := run_bind_iff.mp h
  obtain rfl := eq_of_atWord hbare
  cases bare with
  | true =>
    obtain ⟨_, _, hpure, h⟩ := run_bind_iff.mp h
    cases hpure
    obtain ⟨hguard, k, rest, names, stop, _, _, hkind⟩ := tokens_behind_source h
    refine ⟨none, names, stop, hkind, by simp, fun hhead => ?_⟩
    rw [(leadingDots_of_head hdots hhead).1] at hguard
    cases hguard
  | false =>
    obtain ⟨_, s₃, hsource, h⟩ := run_bind_iff.mp h
    obtain ⟨m, _, hname, hsource⟩ := run_bind_iff.mp hsource
    cases hsource
    obtain ⟨_, k, rest, names, stop, htokens, hk, hkind⟩ := tokens_behind_source h
    obtain ⟨u, used, spelling, identifier, ids, hused, hu, hgoes, rfl⟩ := tokens_of_moduleName hname
    refine ⟨_, names, stop, hkind, ?_, fun hhead => ?_⟩
    · rintro m ⟨⟩
      exact ⟨identifier, ids, rfl⟩
    · rw [(leadingDots_of_head hdots hhead).2, htokens] at hused
      exact ⟨u, used, k, rest, spelling, identifier, ids, hused, hu, hgoes, hk, rfl⟩

end Imports

/-! ### Statements -/

/-- Whether a statement imports something. -/
def Statement.isImport : Statement → Bool
  | .importModules _ | .importFrom _ _ => true
  | _ => false

def Node.isImport (n : Node) : Bool :=
  match n.kind with
  | .statement s _ => s.isImport
  | _ => false

/-- The node is an import that is read where the tokens start. -/
def StartsImport (tokens : List Token) (n : Node) : Prop :=
  ∃ t s s', tokens = t :: s.tokens ∧
    (t.lexeme = .keyword "import" ∧ (importModules t.span.start).run s = some (n, s') ∨
      t.lexeme = .keyword "from" ∧ (importFrom t.span.start).run s = some (n, s'))

section Others

variable {rules : Rules} {start : Position}

lemma gives_finish {statement : Statement} {children : List Node} (h : statement.isImport = false) :
    Gives (finish start statement children) fun n => n.isImport = false := by
  intro s n s' hrun
  obtain ⟨stop, hkind⟩ := kind_of_finish hrun
  rw [Node.isImport, hkind]
  exact h

lemma expressionStatement_gives :
    Gives (expressionStatement rules start) fun n => n.isImport = false := by
  refine .bind fun first => .bind fun _ => .ite ?_ (.bind fun _ => .ite ?_ (.bind fun l => ?_))
  · exact .bind fun _ => .bind fun _ => .bind fun _ =>
      .ite (.bind fun _ => gives_finish rfl) (.bind fun _ => gives_finish rfl)
  · exact .bind fun _ => .bind fun _ => gives_finish rfl
  · split
    · exact .ite (.bind fun _ => .bind fun _ => .bind fun _ => gives_finish rfl) (gives_finish rfl)
    · exact gives_finish rfl

lemma deletion_gives : Gives (deletion rules start) fun n => n.isImport = false := by
  refine .bind fun _ => .bind fun _ => .bind fun l => ?_
  split
  · exact gives_finish rfl
  · exact gives_finish rfl
  · exact gives_failure

lemma raising_gives : Gives (raising rules start) fun n => n.isImport = false := by
  refine .bind fun e => ?_
  split
  · exact gives_finish rfl
  · exact .bind fun _ => .ite (.bind fun _ => gives_finish rfl) (.bind fun _ => gives_finish rfl)

lemma branch_gives (fuel : Nat) : Gives (branch rules fuel start) fun n => n.isImport = false := by
  cases fuel with
  | zero => exact gives_failure
  | succ fuel =>
    exact .bind fun _ => .bind fun _ => .bind fun _ => .bind fun _ =>
      .ite (.bind fun _ => gives_finish rfl) (.bind fun _ => gives_finish rfl)

lemma whileLoop_gives : Gives (whileLoop rules start) fun n => n.isImport = false :=
  .bind fun _ => .bind fun _ => .bind fun _ => gives_finish rfl

lemma forLoop_gives {isAsync : Bool} :
    Gives (forLoop rules isAsync start) fun n => n.isImport = false :=
  .bind fun _ => .bind fun _ => .bind fun _ => .bind fun _ => .bind fun _ => gives_finish rfl

lemma context_gives {isAsync : Bool} :
    Gives (context rules isAsync start) fun n => n.isImport = false :=
  .bind fun _ => .bind fun _ => gives_finish rfl

lemma attemptBlock_gives : Gives (attemptBlock rules start) fun n => n.isImport = false := by
  refine .bind fun _ => .bind fun _ => .bind fun _ => .ite ?_ ?_
  · exact .bind fun _ => .bind fun _ =>
      .ite (.bind fun _ => .bind fun _ => gives_finish rfl)
        (.bind fun _ => .bind fun _ => gives_finish rfl)
  · exact .bind fun _ => .bind fun _ =>
      .ite (.bind fun _ => .bind fun _ => gives_finish rfl)
        (.bind fun _ => .bind fun _ => gives_finish rfl)

lemma selection_gives : Gives (selection rules) fun n => n.isImport = false :=
  .bind fun _ => .bind fun _ => .bind fun _ => .bind fun _ => .bind fun _ => .bind fun _ =>
    .bind fun _ => .bind fun _ => gives_finish rfl

lemma functionDef_gives {isAsync : Bool} {ds : List Node} :
    Gives (functionDef rules isAsync ds start) fun n => n.isImport = false :=
  .bind fun _ => .bind fun _ => .bind fun _ => .bind fun _ => .bind fun _ =>
    .ite (.bind fun _ => .bind fun _ => gives_finish rfl) (.bind fun _ => .bind fun _ => gives_finish rfl)

lemma classDef_gives {ds : List Node} :
    Gives (classDef rules ds start) fun n => n.isImport = false :=
  .bind fun _ => .bind fun _ =>
    .ite (.bind fun _ => .bind fun _ => gives_finish rfl) (.bind fun _ => .bind fun _ => gives_finish rfl)

lemma definition_gives {ds : List Node} : Gives (definition rules ds) fun n => n.isImport = false :=
  .bind fun _ => .bind fun _ =>
    .ite classDef_gives (.bind fun _ => .bind fun _ => functionDef_gives)

lemma asynchronous_gives : Gives (asynchronous rules start) fun n => n.isImport = false :=
  .bind fun _ => .ite functionDef_gives (.bind fun _ => .ite forLoop_gives (.bind fun _ => context_gives))

end Others

section Statements

variable {rules : Rules} {s s' : Input} {n : Node} {ns : List Node}

lemma run_ne_of_gives {p : Reader Node} (h : Gives p fun n => n.isImport = false)
    (hn : n.isImport = true) : p.run s ≠ some (n, s') := by
  intro hrun
  cases hn.symm.trans (h s n s' hrun)

/-- A simple statement that is an import starts with its keyword. -/
lemma startsImport_of_simpleStatement (h : (simpleStatement rules).run s = some (n, s'))
    (hn : n.isImport = true) : StartsImport s.tokens n := by
  obtain ⟨start, s₁, hhere, h⟩ := run_bind_iff.mp h
  obtain ⟨l, s₂, hpeek, h⟩ := run_bind_iff.mp h
  obtain ⟨rfl, hstart⟩ := start_of_here hhere
  obtain ⟨rfl, hnext⟩ := token_of_peek hpeek
  split at h
  · rename_i w
    obtain ⟨t, ts, htokens, ht⟩ := hnext.resolve_left (by simp)
    have hbehind : ∀ {p : Reader Node}, (do let _ ← next; p).run s = some (n, s') →
        p.run (s.pass t ts) = some (n, s') := by
      intro p h
      obtain ⟨_, s₃, hread, h⟩ := run_bind_iff.mp h
      obtain ⟨t', ts', htokens', _, rfl⟩ := tokens_of_next hread
      cases htokens.symm.trans htokens'
      exact h
    rw [hstart t ts htokens] at h
    by_cases himport : w = "import"
    · subst himport
      rw [if_neg (by decide), if_pos rfl] at h
      exact ⟨t, s.pass t ts, s', htokens, .inl ⟨ht, hbehind h⟩⟩
    · by_cases hfrom : w = "from"
      · subst hfrom
        rw [if_neg (by decide), if_neg (by decide), if_pos rfl] at h
        exact ⟨t, s.pass t ts, s', htokens, .inr ⟨ht, hbehind h⟩⟩
      · simp only [himport, hfrom, if_false] at h
        refine absurd h (run_ne_of_gives ?_ hn)
        -- All other keywords, in the order in which they are tried.
        exact .ite (.bind fun _ => .bind fun _ => gives_finish rfl)
          (.ite (.bind fun _ => raising_gives) (.ite (.bind fun _ => gives_finish rfl)
          (.ite (.bind fun _ => deletion_gives) (.ite (.bind fun _ => .bind fun _ => .bind fun _ =>
            .ite (.bind fun _ => gives_finish rfl) (.bind fun _ => gives_finish rfl))
          (.ite (.bind fun _ => gives_finish rfl) (.ite (.bind fun _ => gives_finish rfl)
          (.ite (.bind fun _ => .bind fun _ => gives_finish rfl)
          (.ite (.bind fun _ => .bind fun _ => gives_finish rfl)
          (.ite (.bind fun _ => gives_finish rfl) expressionStatement_gives)))))))))
  · exact absurd h (run_ne_of_gives expressionStatement_gives hn)

/-- Every import that the reader gives starts at an end of the tokens. -/
def Locates (p : Reader (List Node)) : Prop :=
  ∀ s ns s', p.run s = some (ns, s') → ∀ n ∈ ns, n.isImport = true →
    ∃ ts, ts <:+ s.tokens ∧ StartsImport ts n

lemma Locates.bind {α : Type} {p : Reader α} {f : α → Reader (List Node)} (h : ∀ a, Locates (f a)) :
    Locates (p >>= f) := by
  intro s ns s' hrun n hmem hn
  obtain ⟨a, s₁, hp, hf⟩ := run_bind_iff.mp hrun
  obtain ⟨ts, hts, hstarts⟩ := h a s₁ ns s' hf n hmem hn
  exact ⟨ts, hts.trans (p.leaves hp), hstarts⟩

lemma Locates.ite {p q : Reader (List Node)} {c : Prop} [Decidable c] (hp : Locates p)
    (hq : Locates q) : Locates (if c then p else q) := by
  split
  · exact hp
  · exact hq

lemma Locates.within {p : Reader (List Node)} {k : Nat} (hp : Locates p) :
    Locates (Reader.within k p) := by
  intro s ns s' hrun n hmem hn
  obtain ⟨t, t', htokens, hrun⟩ := run_of_within hrun
  obtain ⟨ts, hts, hstarts⟩ := hp t ns t' hrun n hmem hn
  exact ⟨ts, htokens ▸ hts, hstarts⟩

lemma locates_single {p : Reader Node} (h : Gives p fun n => n.isImport = false) :
    Locates (do return [← p]) := by
  intro s ns s' hrun n hmem hn
  obtain ⟨m, s₁, hp, hpure⟩ := run_bind_iff.mp hrun
  cases hpure
  obtain rfl := List.mem_singleton.mp hmem
  exact absurd hp (run_ne_of_gives h hn)

lemma locates_simpleStatements : Locates (simpleStatements rules) := by
  intro s ns s' h n hmem hn
  obtain ⟨first, s₁, hfirst, h⟩ := run_bind_iff.mp h
  obtain ⟨more, s₂, hmore, h⟩ := run_bind_iff.mp h
  obtain ⟨_, s₃, _, h⟩ := run_bind_iff.mp h
  obtain ⟨_, s₄, _, h⟩ := run_bind_iff.mp h
  cases h
  rcases List.mem_cons.mp hmem with rfl | hmem
  · exact ⟨s.tokens, List.suffix_refl _, startsImport_of_simpleStatement hfirst hn⟩
  · obtain ⟨t, t', ht, hrun⟩ := mem_many hmore hmem
    obtain ⟨_, t₁, hsemicolon, hrun⟩ := run_bind_iff.mp hrun
    refine ⟨t₁.tokens, ?_, startsImport_of_simpleStatement hrun hn⟩
    exact ((op ";").leaves hsemicolon).trans (ht.trans ((simpleStatement rules).leaves hfirst))

lemma locates_statement : Locates (statement rules) := by
  refine .bind fun start => .bind fun l => ?_
  split
  · exact .ite (.bind fun _ => locates_single functionDef_gives)
      (.ite (.bind fun _ => locates_single classDef_gives)
      (.ite (.bind fun _ => locates_single (.bind fun _ => branch_gives _))
      (.ite (.bind fun _ => locates_single whileLoop_gives)
      (.ite (.bind fun _ => locates_single forLoop_gives)
      (.ite (.bind fun _ => locates_single context_gives)
      (.ite (.bind fun _ => locates_single attemptBlock_gives)
      (.ite (.bind fun _ => locates_single asynchronous_gives) locates_simpleStatements)))))))
  · exact .bind fun _ => locates_single definition_gives
  · intro s ns s' h n hmem hn
    obtain ⟨selected, s₁, hattempt, h⟩ := run_bind_iff.mp h
    cases selected with
    | none =>
      rw [eq_of_attempt hattempt] at h
      exact locates_simpleStatements s ns s' h n hmem hn
    | some m =>
      cases h
      obtain rfl := List.mem_singleton.mp hmem
      exact absurd (run_of_attempt hattempt) (run_ne_of_gives selection_gives hn)
  · exact locates_simpleStatements

/-- An import on the top level of a script is read at an end of its tokens. -/
theorem exists_startsImport {text : List Char} {tree : Node} (h : parse text = .ok tree)
    (hmem : n ∈ tree.children) (hn : n.isImport = true) :
    ∃ tokens ts, lex text = some tokens ∧ ts <:+ tokens ∧ StartsImport ts n := by
  obtain ⟨deepest, htree⟩ : ∃ deepest, readTree? text = some (tree, deepest) := by
    unfold parse at h
    split at h
    · cases h
    · split at h
      · cases h
      · split at h
        · cases h
        · cases h
          exact ⟨_, ‹_›⟩
  unfold readTree? at htree
  split at htree
  · cases htree
  · rename_i tokens hlex
    obtain ⟨⟨tree', s'⟩, hmodule, heq⟩ := Option.map_eq_some_iff.mp htree
    cases heq
    obtain ⟨statements, s₁, hmany, hrest⟩ := run_bind_iff.mp hmodule
    obtain ⟨_, s₂, _, hrest⟩ := run_bind_iff.mp hrest
    cases hrest
    obtain ⟨ns, hns, hmem⟩ := List.mem_flatten.mp hmem
    obtain ⟨t, t', ht, hrun⟩ := mem_many hmany hns
    obtain ⟨ts, hts, hstarts⟩ := locates_statement.within t ns t' hrun n hmem hn
    exact ⟨tokens, ts, hlex, hts.trans ht, hstarts⟩

end Statements

end CodeAtlas.Script
