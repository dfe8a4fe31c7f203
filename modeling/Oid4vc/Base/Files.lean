import Oid4vc.Base.Fallible
import Oid4vc.Base.PartialMap
import Oid4vc.Base.Rely

/-!
Programs that read and write files. Each file operation is one call, and any of them may fail: what
was done before stays on the disk, as it does when the program is killed between two calls.

A program that finds what it reads fixed, and only reads, answers in any company as it does alone.
-/

namespace Oid4vc.Files

open Oid4vc.Fallible Oid4vc.Run Oid4vc.Atomic Oid4vc.PartialMap Oid4vc.Spending Oid4vc.Rely

/-! ### Files -/

/-- The files, by path. -/
abbrev Disk := PMap String String

/-- What goes wrong with the file operations of one program. -/
structure Faults where
  /-- Whether the metadata of a path can be read. -/
  metadata : String → Bool
  read : String → Option String
  createDirAll : String → Option String
  create : String → Option String
  /-- Why a write stops, and what it has written. -/
  writeAll : String → Option (String × String)
  setPermissions : String → Option String

/-- Nothing goes wrong. -/
def Faults.none : Faults where
  metadata _ := true
  read _ := .none
  createDirAll _ := .none
  create _ := .none
  writeAll _ := .none
  setPermissions _ := .none

/-- A program on files, which may stop with an error. -/
def Job (α : Type) : Type 1 := Prog Disk (Except String α)

instance : Monad Job where
  pure a := .ret (.ok a)
  bind m f := Prog.bind m fun
    | .ok a => f a
    | .error e => .ret (.error e)

namespace Job

variable {α β : Type}

/-- The calls of the program, one after another. -/
def prog (m : Job α) : Prog Disk (Except String α) := m

/-- What the program gives on its own, and the files that it leaves. -/
def run (m : Job α) (d : Disk) : Except String α × Disk := m.prog.exec d

/-- A step on no file. -/
def ofExcept (x : Except String α) : Job α := (.ret x : Prog Disk (Except String α))

/-- One file operation. -/
def call (op : Disk → Except String α × Disk) : Job α := (Prog.lift op : Prog Disk (Except String α))

end Job

variable (F : Faults)

/-- An operation that does no more than fail. -/
def mayFail (fault : Option String) : Job Unit :=
  .call fun d => ((match fault with
    | some e => .error e
    | none => .ok ()), d)

def pathExists (path : String) : Job Bool :=
  .call fun d => (.ok (d.containsKey path && F.metadata path), d)

def readFile (path : String) : Option String → Except String String
  | none => .error "No such file or directory (os error 2)"
  | some text => match F.read path with
    | some e => .error e
    | none => .ok text

def readToString (path : String) : Job String := .call fun d => (readFile F path (d.get path), d)

/-- Open a file for writing: it is empty then. -/
def create (path : String) : Job Unit :=
  .call fun d => match F.create path with
    | some e => (.error e, d)
    | none => (.ok (), d.insert path "")

def writeAll (path contents : String) : Job Unit :=
  .call fun d => match F.writeAll path with
    | some (e, written) => (.error e, d.insert path written)
    | none => (.ok (), d.insert path contents)

/-- Write a file, in place of the one that is there. -/
def write (path contents : String) : Job Unit := do
  create F path
  writeAll F path contents

/-! ### A program on its own -/

variable {F} {α β : Type} {m : Job α} {f : α → Job β} {d d' : Disk}

/-- The program finishes with this value, and leaves these files. -/
def Gives (m : Job α) (d : Disk) (a : α) (d' : Disk) : Prop := m.run d = (.ok a, d')

lemma run_bind (m : Job α) (f : α → Job β) (d : Disk) :
    (m >>= f).run d = match m.run d with
      | (.ok a, d') => (f a).run d'
      | (.error e, d') => (.error e, d') := by
  have hexec : (m >>= f).run d = (match (m.run d).1 with
      | .ok a => (f a).prog
      | .error e => .ret (.error e) : Prog Disk (Except String β)).exec (m.run d).2 :=
    Prog.exec_bind m.prog _ d
  rw [hexec]
  rcases m.run d with ⟨r | a, d'⟩ <;> rfl

@[simp] lemma gives_pure {a b : α} : Gives (pure a) d b d' ↔ a = b ∧ d = d' := by
  have hrun : (pure a : Job α).run d = (.ok a, d) := rfl
  simp [Gives, hrun]

@[simp] lemma gives_ofExcept {x : Except String α} {a : α} :
    Gives (.ofExcept x) d a d' ↔ x = .ok a ∧ d = d' := by
  have hrun : (Job.ofExcept x).run d = (x, d) := rfl
  simp [Gives, hrun]

@[simp] lemma gives_bind {b : β} :
    Gives (m >>= f) d b d' ↔ ∃ a d₁, Gives m d a d₁ ∧ Gives (f a) d₁ b d' := by
  unfold Gives
  rw [run_bind]
  rcases h : m.run d with ⟨e | a, d₁⟩
  · simp
  · simp

@[simp] lemma gives_mayFail {fault : Option String} {u : Unit} :
    Gives (mayFail fault) d u d' ↔ fault = none ∧ d = d' := by
  cases fault <;> simp [Gives, mayFail, Job.run, Job.call, Job.prog]

@[simp] lemma gives_pathExists {path : String} {b : Bool} :
    Gives (pathExists F path) d b d' ↔ (d.containsKey path && F.metadata path) = b ∧ d = d' := by
  simp [Gives, pathExists, Job.run, Job.call, Job.prog]

@[simp] lemma gives_readToString {path text : String} :
    Gives (readToString F path) d text d' ↔
      (d.get path = some text ∧ F.read path = none) ∧ d = d' := by
  cases hget : d.get path <;> cases hread : F.read path <;>
    simp [Gives, readToString, readFile, Job.run, Job.call, Job.prog, hget, hread]

@[simp] lemma gives_write {path contents : String} {u : Unit} :
    Gives (write F path contents) d u d' ↔
      (F.create path = none ∧ F.writeAll path = none) ∧ d' = d.insert path contents := by
  have hcreate : ∀ d₁, Gives (create F path) d () d₁ ↔
      F.create path = none ∧ d₁ = d.insert path "" := by
    intro d₁
    cases h : F.create path <;> simp [Gives, create, Job.run, Job.call, Job.prog, h, eq_comm]
  have hwrite : ∀ d₁ : Disk, Gives (writeAll F path contents) d₁ u d' ↔
      F.writeAll path = none ∧ d' = d₁.insert path contents := by
    intro d₁
    cases h : F.writeAll path <;> simp [Gives, writeAll, Job.run, Job.call, Job.prog, h, eq_comm]
  have hagain : (d.insert path "").insert path contents = d.insert path contents := by
    ext1 k
    by_cases hk : k = path <;> simp [hk]
  simp only [write, gives_bind, exists_unit, hcreate, hwrite]
  constructor
  · rintro ⟨_, ⟨h, rfl⟩, h', rfl⟩
    exact ⟨⟨h, h'⟩, hagain⟩
  · rintro ⟨⟨h, h'⟩, rfl⟩
    exact ⟨_, ⟨h, rfl⟩, h', hagain.symm⟩

/-! ### Programs that only read what is fixed -/

section Quiet

variable {θ ε σ γ δ : Type} {P : σ → Prop} {p : Prog σ γ}

/-- While `P` holds, each call leaves the state as it is, and is answered in one way only. -/
inductive Quiet (P : σ → Prop) : Prog σ γ → Prop
  | ret (a : γ) : Quiet P (.ret a)
  | call {β : Type} {op : σ → β × σ} {k : β → Prog σ γ} (b : β) (hop : ∀ s, P s → op s = (b, s))
    (hk : Quiet P (k b)) : Quiet P (.call op k)

lemma Quiet.exec_snd (h : Quiet P p) {s : σ} (hs : P s) : (p.exec s).2 = s := by
  induction h with
  | ret a => rfl
  | call b hop _ ih => rw [Prog.exec_call, hop s hs, ih]

lemma Quiet.exec_fst (h : Quiet P p) {s s' : σ} (hs : P s) (hs' : P s') :
    (p.exec s).1 = (p.exec s').1 := by
  induction h with
  | ret a => rfl
  | call b hop _ ih => rw [Prog.exec_call, Prog.exec_call, hop s hs, hop s' hs', ih]

lemma Quiet.bind {f : γ → Prog σ δ} (h : Quiet P p)
    (hf : ∀ a, (∀ s, P s → (p.exec s).1 = a) → Quiet P (f a)) : Quiet P (p.bind f) := by
  induction h with
  | ret a => exact hf a fun _ _ => rfl
  | call b hop _ ih =>
    refine .call b hop (ih fun a ha => hf a fun s hs => ?_)
    rw [Prog.exec_call, hop s hs]
    exact ha s hs

variable [DecidableEq θ] {act : ε → σ → σ} {pool : Pool θ σ γ}

/-- The next call of a quiet program leaves what it would answer. -/
lemma Quiet.advance (hquiet : ∀ t, Quiet P (pool.prog t)) (hP : P pool.shared) (u : θ) :
    (pool.advance u).shared = pool.shared ∧ ∀ t, Quiet P ((pool.advance u).prog t) ∧
      (((pool.advance u).prog t).exec pool.shared).1 = ((pool.prog t).exec pool.shared).1 := by
  have hu := hquiet u
  generalize hprog : pool.prog u = q at hu
  cases hu with
  | ret a =>
    rw [advance_of_ret hprog]
    exact ⟨rfl, fun t => ⟨hquiet t, rfl⟩⟩
  | call b hop hk =>
    have hshared : (pool.advance u).shared = pool.shared := by
      rw [advance_shared hprog, hop _ hP]
    refine ⟨hshared, fun t => ?_⟩
    by_cases ht : t = u
    · subst ht
      rw [advance_prog_self hprog, hprog, Prog.exec_call, hop _ hP]
      exact ⟨hk, rfl⟩
    · rw [advance_prog_of_ne pool ht]
      exact ⟨hquiet t, rfl⟩

/-- **In company as alone.** In any run of quiet programs, in which the outside keeps what they read,
each answers what it answers on its own. -/
theorem run_quiet (hquiet : ∀ t, Quiet P (pool.prog t)) (hP : P pool.shared)
    {events : List (Event θ ε)}
    (hacts : Every (machine θ σ γ act) (fun pool event => ∀ e, event = .outside e → P pool.shared →
      P (act e pool.shared)) pool events) :
    P (run (machine θ σ γ act) pool events).shared ∧
      ∀ t a, ((run (machine θ σ γ act) pool events).prog t).answer = some a →
        a = ((pool.prog t).exec pool.shared).1 := by
  have hinv : ∀ pool' : Pool θ σ γ, (P pool'.shared ∧ ∀ t, Quiet P (pool'.prog t) ∧
      ((pool'.prog t).exec pool'.shared).1 = ((pool.prog t).exec pool.shared).1) → ∀ event,
      (∀ e, event = .outside e → P pool'.shared → P (act e pool'.shared)) →
        P ((machine θ σ γ act).step pool' event).1.shared ∧
          ∀ t, Quiet P (((machine θ σ γ act).step pool' event).1.prog t) ∧
            ((((machine θ σ γ act).step pool' event).1.prog t).exec
              ((machine θ σ γ act).step pool' event).1.shared).1 =
                ((pool.prog t).exec pool.shared).1 := by
    rintro pool' ⟨hshared, hprogs⟩ event hact
    cases event with
    | thread u =>
      obtain ⟨hsame, hnext⟩ := Quiet.advance (fun t => (hprogs t).1) hshared u
      rw [step_thread, hsame]
      exact ⟨hshared, fun t => ⟨(hnext t).1, (hnext t).2.trans (hprogs t).2⟩⟩
    | outside e =>
      have hafter := hact e rfl hshared
      exact ⟨hafter, fun t => ⟨(hprogs t).1, ((hprogs t).1.exec_fst hafter hshared).trans (hprogs t).2⟩⟩
  obtain ⟨hshared, hprogs⟩ := run_inv (fun pool' event h => hinv pool' h event)
    ⟨hP, fun t => ⟨hquiet t, rfl⟩⟩ hacts
  refine ⟨hshared, fun t a ha => ?_⟩
  rw [← (hprogs t).2, Prog.eq_ret_of_answer ha, Prog.exec_ret]

end Quiet

/-! ### Programs that find their files -/

/-- These files are as on the disk. -/
def Same (files : List String) (disk d : Disk) : Prop := ∀ path ∈ files, d.get path = disk.get path

variable {files : List String} {disk : Disk}

lemma quiet_pure (P : Disk → Prop) (a : α) : Quiet P (pure a : Job α).prog := .ret _

lemma quiet_ofExcept (P : Disk → Prop) (x : Except String α) : Quiet P (Job.ofExcept x).prog := .ret _

lemma quiet_bind (hm : Quiet (Same files disk) m.prog)
    (hf : ∀ a, Gives m disk a disk → Quiet (Same files disk) (f a).prog) :
    Quiet (Same files disk) (m >>= f).prog := by
  have hdisk : Same files disk disk := fun _ _ => rfl
  refine hm.bind fun r hr => ?_
  cases r with
  | error e => exact .ret _
  | ok a =>
    exact hf a (Prod.ext (hr disk hdisk) (hm.exec_snd hdisk))

lemma quiet_pathExists {path : String} (h : path ∈ files) :
    Quiet (Same files disk) (pathExists F path).prog := by
  refine .call (.ok (disk.containsKey path && F.metadata path)) (fun d hd => ?_) (.ret _)
  rw [containsKey_eq, containsKey_eq, hd path h]

lemma quiet_readToString {path : String} (h : path ∈ files) :
    Quiet (Same files disk) (readToString F path).prog := by
  refine .call (readFile F path (disk.get path)) (fun d hd => ?_) (.ret _)
  rw [hd path h]

/-! ### Programs that keep what holds -/

/-- The program keeps `P`, as long as the others do. -/
def Keeps (P : Disk → Prop) (m : Job α) : Prop :=
  Outline (fun d d' => P d → P d') (fun d d' => P d → P d') (fun _ => P) P m.prog

section Keeps

variable {P : Disk → Prop}

lemma keeps_ofExcept (x : Except String α) : Keeps P (.ofExcept x) := .ret (fun _ h => h) fun _ _ h => h

lemma keeps_pure (a : α) : Keeps P (pure a) := keeps_ofExcept (.ok a)

lemma keeps_call_bind {op : Disk → Except String α × Disk} (hop : ∀ d, P d → P (op d).2)
    (hf : ∀ a d, P d → (op d).1 = .ok a → Keeps P (f a)) : Keeps P (.call op >>= f) := by
  refine .call P (fun _ => P) (fun _ h => h) (fun _ _ h => h) (fun d hd _ => hop d hd) hop ?_
  rintro r ⟨d, hd, hr⟩
  cases r with
  | error e => exact keeps_ofExcept (.error e)
  | ok a => exact hf a d hd hr

lemma keeps_bind (hm : Keeps P m) (hf : ∀ a, Keeps P (f a)) : Keeps P (m >>= f) := by
  refine hm.bind fun r => ?_
  cases r with
  | error e => exact keeps_ofExcept (.error e)
  | ok a => exact hf a

lemma keeps_mayFail (fault : Option String) : Keeps P (mayFail fault) :=
  .call P (fun _ => P) (fun _ h => h) (fun _ _ h => h) (fun _ hd _ => hd) (fun _ hd => hd)
    fun _ _ => .ret (fun _ h => h) fun _ _ h => h

/-- Another file is written. -/
lemma keeps_write {file path text : String} (contents : String) (h : path ≠ file) :
    Keeps (fun d => d.get path = some text) (write F file contents) := by
  have hkept : ∀ (d : Disk) (left : String), d.get path = some text →
      (d.insert file left).get path = some text := by
    intro d left hd
    rw [get_insert_of_ne d left h, hd]
  have hwrite : ∀ d : Disk, d.get path = some text → (match F.writeAll file with
      | some (e, written) => ((.error e, d.insert file written) : Except String Unit × Disk)
      | none => (.ok (), d.insert file contents)).2.get path = some text := by
    intro d hd
    split
    · exact hkept d _ hd
    · exact hkept d contents hd
  refine keeps_call_bind (fun d hd => ?_) fun _ _ _ _ => ?_
  · split
    · exact hd
    · exact hkept d "" hd
  · exact .call _ (fun _ d => d.get path = some text) (fun _ h => h) (fun _ _ h => h)
      (fun d hd _ => hwrite d hd) hwrite fun _ _ => .ret (fun _ h => h) fun _ _ h => h

/-- **What every program keeps** holds in any run of them, if the outside keeps it too. -/
theorem run_keeps {θ ε : Type} [DecidableEq θ] {act : ε → Disk → Disk} {jobs : θ → Job α}
    (hjobs : ∀ t, Keeps P (jobs t)) (hact : ∀ e d, P d → P (act e d)) (hd : P d)
    (events : List (Event θ ε)) :
    P (run (machine θ Disk _ act) ⟨d, fun t => (jobs t).prog⟩ events).shared := by
  have hstand : AllStand (fun _ d d' => P d → P d') (fun _ d d' => P d → P d') (fun _ _ => P)
      ⟨d, fun t => (jobs t).prog⟩ := fun t => ⟨P, hd, hjobs t⟩
  have hacts : Every (machine θ Disk _ act) (fun pool event =>
      ∀ _ : θ, ActsAsRelied (fun d d' => P d → P d') act pool event)
      (⟨d, fun t => (jobs t).prog⟩ : Pool θ Disk (Except String α)) events :=
    (every_true _ _).mono fun pool _ _ _ e _ => hact e pool.shared
  have hguars : ∀ t : θ, Event.thread t ∈ events → ∀ d d' : Disk, (P d → P d') → P d → P d' :=
    fun _ _ _ _ h => h
  have hcompatible : Compatible (fun (_ : θ) (d d' : Disk) => P d → P d') (fun _ d d' => P d → P d') :=
    fun _ _ _ _ _ h => h
  exact run_invariant hcompatible hstand hacts hguars hact hd

end Keeps

/-! ### How many calls it takes -/

lemma bind_bounded {σ γ δ : Type} {n k : ℕ} {p : Prog σ γ} {f : γ → Prog σ δ} (h : Bounded n p)
    (hf : ∀ a, Bounded k (f a)) : Bounded (n + k) (p.bind f) := by
  induction h with
  | ret n a => exact (hf a).mono (by omega)
  | @call n β op k' _ ih =>
    rw [Nat.add_right_comm]
    exact .call ih

lemma bounded_pure (a : α) : Bounded 0 (pure a : Job α).prog := .ret 0 _

lemma bounded_ofExcept (x : Except String α) : Bounded 0 (Job.ofExcept x).prog := .ret 0 _

lemma bounded_call (op : Disk → Except String α × Disk) : Bounded 1 (Job.call op).prog :=
  .call fun _ => .ret 0 _

lemma bounded_bind {n k : ℕ} (hm : Bounded n m.prog) (hf : ∀ a, Bounded k (f a).prog) :
    Bounded (n + k) (m >>= f).prog := by
  refine bind_bounded hm fun r => ?_
  cases r with
  | error e => exact .ret k _
  | ok a => exact hf a

lemma bounded_write (F : Faults) (path contents : String) : Bounded 2 (write F path contents).prog :=
  bounded_bind (bounded_call _) fun _ => bounded_call _

end Oid4vc.Files
