-- SUMMARY: The path of a pid file reaches the runtime absolute, and is not changed by being given again.
import Overseer.Runtime.Flags

/-!
# Pid files

An absolute path is a list of parts, each behind a slash. In a normal one all parts name something, except that
the last may be empty, which is a slash at the end, and so may the first, which is a second slash in front.
Making a path absolute yields such a path, and a path that is one already is made of its own parts again.
-/

namespace Overseer

namespace Path

variable {cs x y part : List Char} {ps qs : List (List Char)} {cwd path : String} {twofold closed : Bool}

-- ---------------------------------------------------------------------------
-- Parts
-- ---------------------------------------------------------------------------

/-- What stands between the slashes of a path, as far as something does. -/
def parts (cs : List Char) : List (List Char) := (cs.splitOn '/').filter fun part => part ≠ []

/-- The part names something. -/
structure Proper (part : List Char) : Prop where
  nonempty : part ≠ []
  other : part ≠ ['.']
  slashless : '/' ∉ part

theorem split_eq (part cs : List Char) : split part cs = cs.splitOnPPrepend (· == '/') part := by
  induction cs generalizing part with
  | nil => rfl
  | cons c cs ih =>
    rw [split, List.splitOnPPrepend_cons_eq_if, List.splitOnP_eq_splitOnPPrepend, ih, ih]
    simp only [beq_iff_eq]

theorem split_nil (cs : List Char) : split [] cs = cs.splitOn '/' := by
  rw [split_eq, ← List.splitOnP_eq_splitOnPPrepend, ← List.splitOn_eq_splitOnP]

/-- What is appended to the beginning of an absolute path. -/
theorem components_eq (cs : List Char) : components cs = (parts cs).filter fun part => part ≠ ['.'] := by
  simp [components, parts, split_nil, List.filter_filter, Bool.and_comm]

theorem slashless_of_mem_split (begun : '/' ∉ x) (mem : part ∈ split x cs) : '/' ∉ part := by
  induction cs generalizing x with
  | nil =>
    rw [List.mem_singleton.mp mem, List.mem_reverse]
    exact begun
  | cons c cs ih =>
    rw [split] at mem
    split at mem
    · rcases List.mem_cons.mp mem with rfl | later
      · rwa [List.mem_reverse]
      · exact ih List.not_mem_nil later
    · rename_i other
      exact ih (List.not_mem_cons_of_ne_of_not_mem (Ne.symm other) begun) mem

theorem proper_components (cs : List Char) : ∀ part ∈ components cs, Proper part := by
  intro part mem
  obtain ⟨inside, named⟩ := List.mem_filter.mp mem
  obtain ⟨nonempty, other⟩ := of_decide_eq_true named
  exact ⟨nonempty, other, slashless_of_mem_split List.not_mem_nil inside⟩

-- ---------------------------------------------------------------------------
-- Paths of parts
-- ---------------------------------------------------------------------------

/-- Each part behind a slash. -/
def slashed (ps : List (List Char)) : List Char := ps.flatMap ('/' :: ·)

/-- The absolute path of these parts, perhaps with a second slash in front and with one at the end. -/
def assembled (twofold : Bool) (ps : List (List Char)) (closed : Bool) : List Char :=
  slashed ((if twofold then [[]] else []) ++ ps ++ if closed || ps.isEmpty then [[]] else [])

theorem slashed_cons (part : List Char) (ps : List (List Char)) :
    slashed (part :: ps) = '/' :: (part ++ slashed ps) := rfl

theorem splitOn_slashed (slashless : '/' ∉ x) (others : ∀ part ∈ ps, '/' ∉ part) :
    (x ++ slashed ps).splitOn '/' = x :: ps := by
  induction ps generalizing x with
  | nil =>
    change (x ++ []).splitOn '/' = [x]
    rw [List.append_nil, List.splitOn_eq_singleton slashless]
  | cons part ps ih =>
    obtain ⟨first, rest⟩ := List.forall_mem_cons.mp others
    rw [slashed_cons, List.splitOn_append_cons_self_of_not_mem slashless, ih first rest]

/-- A slash of its own, in front or at the end. -/
theorem slashless_edge {edge : Bool} (mem : part ∈ if edge then [[]] else []) : '/' ∉ part := by
  cases edge with
  | false => cases mem
  | true =>
    rw [List.mem_singleton.mp mem]
    exact List.not_mem_nil

theorem parts_assembled (proper : ∀ part ∈ ps, Proper part) : parts (assembled twofold ps closed) = ps := by
  have slashless : ∀ part ∈ (if twofold then [[]] else []) ++ ps
      ++ (if closed || ps.isEmpty then [[]] else []), '/' ∉ part := by
    intro part mem
    rw [List.mem_append, List.mem_append] at mem
    obtain (front | inside) | back := mem
    · exact slashless_edge front
    · exact (proper part inside).slashless
    · exact slashless_edge back
  have named : ps.filter (fun part => part ≠ []) = ps :=
    List.filter_eq_self.mpr fun part mem => decide_eq_true (proper part mem).nonempty
  have split := splitOn_slashed (x := []) List.not_mem_nil slashless
  rw [List.nil_append] at split
  rw [parts, assembled, split]
  simp only [List.filter_cons, List.filter_append, named]
  cases twofold <;> cases (closed || ps.isEmpty) <;> simp

-- ---------------------------------------------------------------------------
-- Slashes
-- ---------------------------------------------------------------------------

/-- No slash follows another. -/
def Unrepeated (cs : List Char) : Prop := ¬ ['/', '/'] <:+: cs

/-- Two slashes stand in front, and no third. -/
def Twofold (cs : List Char) : Prop := cs.take 2 = ['/', '/'] ∧ (cs.drop 2).head? ≠ some '/'

instance (cs : List Char) : Decidable (Twofold cs) := inferInstanceAs (Decidable (_ ∧ _))

theorem unrepeated_slash : Unrepeated ('/' :: cs) ↔ cs.head? ≠ some '/' ∧ Unrepeated cs := by
  have front : ['/', '/'] <+: '/' :: cs ↔ cs.head? = some '/' := by
    rw [List.cons_prefix_cons, List.singleton_prefix_iff_head?_eq_some]
    exact and_iff_right rfl
  rw [Unrepeated, List.infix_cons_iff, front, not_or, Unrepeated]

theorem unrepeated_append (slashless : '/' ∉ x) : Unrepeated (x ++ cs) ↔ Unrepeated cs := by
  induction x with
  | nil => rfl
  | cons c x ih =>
    obtain ⟨other, further⟩ := List.ne_and_not_mem_of_not_mem_cons slashless
    have elsewhere : ¬ ['/', '/'] <+: c :: (x ++ cs) := fun front => other (List.cons_prefix_cons.mp front).1
    rw [← ih further, List.cons_append, Unrepeated, List.infix_cons_iff, or_iff_right elsewhere, Unrepeated]

theorem Proper.head (proper : Proper part) (cs : List Char) : (part ++ cs).head? ≠ some '/' := by
  obtain ⟨c, rest, rfl⟩ := List.exists_cons_of_ne_nil proper.nonempty
  intro slash
  obtain rfl : c = '/' := Option.some.inj slash
  exact proper.slashless List.mem_cons_self

theorem Proper.last (proper : Proper part) : part.getLast? ≠ some '/' :=
  fun slash => proper.slashless (List.mem_of_getLast? slash)

theorem assembled_twofold (ps : List (List Char)) (closed : Bool) :
    assembled true ps closed = '/' :: assembled false ps closed := rfl

/-- One slash in front. -/
theorem assembled_begins (closed : Bool) (proper : ∀ part ∈ ps, Proper part) :
    ∃ rest, assembled false ps closed = '/' :: rest ∧ rest.head? ≠ some '/' := by
  cases ps with
  | nil => cases closed <;> exact ⟨[], rfl, nofun⟩
  | cons part ps => exact ⟨_, rfl, (proper part List.mem_cons_self).head _⟩

theorem unrepeated_slashed (proper : ∀ part ∈ ps, Proper part) (ends : qs = [] ∨ qs = [[]]) :
    Unrepeated (slashed (ps ++ qs)) := by
  induction ps with
  | nil => rcases ends with rfl | rfl <;> simp [slashed, Unrepeated, List.infix_cons_iff]
  | cons part ps ih =>
    obtain ⟨first, rest⟩ := List.forall_mem_cons.mp proper
    rw [List.cons_append, slashed_cons, unrepeated_slash, unrepeated_append first.slashless]
    exact ⟨first.head _, ih rest⟩

theorem unrepeated_assembled (proper : ∀ part ∈ ps, Proper part) : Unrepeated (assembled false ps closed) := by
  apply unrepeated_slashed proper
  split
  · exact .inr rfl
  · exact .inl rfl

theorem twofold_assembled (proper : ∀ part ∈ ps, Proper part) :
    Twofold (assembled twofold ps closed) ↔ twofold := by
  obtain ⟨rest, whole, single⟩ := assembled_begins closed proper
  cases twofold with
  | true =>
    rw [assembled_twofold, whole]
    exact iff_of_true ⟨rfl, single⟩ rfl
  | false =>
    rw [whole]
    refine iff_of_false (fun both => single ?_) Bool.false_ne_true
    have second : rest.take 1 = ['/'] := (List.cons.inj both.1).2
    have head : (rest.take 1).head? = rest.head? := List.head?_take
    rw [← head, second]
    rfl

theorem getLast?_slashed (ps : List (List Char)) (slashless : '/' ∉ part) :
    (slashed (ps ++ [part])).getLast? = some '/' ↔ part = [] := by
  have last : slashed (ps ++ [part]) = slashed ps ++ '/' :: part := by simp [slashed]
  rw [last, List.getLast?_append, List.getLast?_cons, Option.some_or]
  cases ended : part.getLast? with
  | none => simpa using List.getLast?_eq_none_iff.mp ended
  | some c =>
    have inside := List.mem_of_getLast? ended
    refine iff_of_false ?_ (List.ne_nil_of_mem inside)
    rintro ⟨rfl⟩
    exact slashless inside

/-- A slash at the end. -/
theorem getLast?_assembled (proper : ∀ part ∈ ps, Proper part) :
    (assembled twofold ps closed).getLast? = some '/' ↔ closed ∨ ps = [] := by
  by_cases ends : closed || ps.isEmpty
  · rw [assembled, if_pos ends, getLast?_slashed _ List.not_mem_nil]
    simpa using ends
  · have filled : ps ≠ [] := by
      rintro rfl
      simp at ends
    have named := proper _ (List.getLast_mem filled)
    rw [assembled, if_neg ends, List.append_nil, ← List.dropLast_concat_getLast filled, ← List.append_assoc,
      getLast?_slashed _ named.slashless]
    simpa [named.nonempty, filled] using ends

-- ---------------------------------------------------------------------------
-- Making a path absolute
-- ---------------------------------------------------------------------------

theorem push_assembled (proper : ∀ part ∈ ps, Proper part) (part : List Char) :
    push (assembled twofold ps false) part = assembled twofold (ps ++ [part]) false := by
  unfold push
  split
  · rename_i rooted
    obtain rfl : ps = [] := by simpa using (getLast?_assembled proper).mp rooted
    cases twofold <;> simp [assembled, slashed]
  · rename_i open'
    have filled : ps ≠ [] := fun none => open' ((getLast?_assembled proper).mpr (.inr none))
    simp [assembled, filled, slashed]

theorem foldl_push (proper : ∀ part ∈ ps, Proper part) (more : ∀ part ∈ qs, Proper part) :
    qs.foldl push (assembled twofold ps false) = assembled twofold (ps ++ qs) false := by
  induction qs generalizing ps with
  | nil => rw [List.foldl_nil, List.append_nil]
  | cons part qs ih =>
    obtain ⟨next, rest⟩ := List.forall_mem_cons.mp more
    have longer : ∀ p ∈ ps ++ [part], Proper p :=
      List.forall_mem_append.mpr ⟨proper, List.forall_mem_singleton.mpr next⟩
    rw [List.foldl_cons, push_assembled proper, ih longer rest, List.append_assoc, List.singleton_append]

/-- A path that begins with a slash does not depend on where it is resolved. -/
theorem base_absolute (cwd : List Char) (absolute : cs.head? = some '/') :
    base cwd cs = assembled (decide (Twofold cs)) [] false := by
  unfold base
  split
  · rename_i rest
    have more : ¬ Twofold ('/' :: '/' :: '/' :: rest) := fun both => both.2 rfl
    rw [decide_eq_false more]
    rfl
  · rename_i rest none
    have both : Twofold ('/' :: '/' :: rest) := by
      refine ⟨rfl, fun third => ?_⟩
      obtain ⟨tail, rfl⟩ := List.head?_eq_some_iff.mp third
      exact none tail rfl
    rw [decide_eq_true both]
    rfl
  · rename_i rest _ none
    have one : ¬ Twofold ('/' :: rest) := by
      rintro ⟨front, -⟩
      obtain ⟨tail, rfl⟩ : ∃ tail, rest = '/' :: tail := by
        cases rest with
        | nil => cases front
        | cons c tail => exact ⟨tail, by rw [(List.cons.inj (List.cons.inj front).2).1]⟩
      exact none tail rfl
    rw [decide_eq_false one]
    rfl
  · rename_i other
    obtain ⟨rest, rfl⟩ := List.head?_eq_some_iff.mp absolute
    exact absurd rfl (other rest)

theorem base_relative (cwd : List Char) (relative : cs.head? ≠ some '/') : base cwd cs = cwd := by
  unfold base
  split
  · exact absurd rfl relative
  · exact absurd rfl relative
  · exact absurd rfl relative
  · rfl

theorem not_twofold (relative : cs.head? ≠ some '/') : ¬ Twofold cs := by
  rintro ⟨front, -⟩
  cases cs with
  | nil => cases front
  | cons c cs => exact relative (congrArg some (List.cons.inj front).1)

/-- A slash is put at the end unless one is there. -/
theorem close_assembled (proper : ∀ part ∈ ps, Proper part) (closed : Prop) [Decidable closed] :
    (if closed ∧ (assembled twofold ps false).getLast? ≠ some '/' then assembled twofold ps false ++ ['/']
      else assembled twofold ps false) = assembled twofold ps (decide closed) := by
  simp only [ne_eq, getLast?_assembled proper, Bool.false_eq_true, false_or]
  by_cases given : closed
  · cases ps with
    | nil => simp [assembled]
    | cons part ps => simp [assembled, given, slashed]
  · simp [given]

theorem absolute?_assembled {start : List (List Char)} (proper : ∀ part ∈ start, Proper part)
    (begins : base cwd.toList path.toList = assembled twofold start false) (nonempty : path ≠ "") :
    absolute? cwd path = some (String.ofList (assembled twofold (start ++ components path.toList)
      (decide (path.toList.getLast? = some '/')))) := by
  have filled : path.toList.isEmpty = false := by simpa using nonempty
  have whole : ∀ part ∈ start ++ components path.toList, Proper part :=
    List.forall_mem_append.mpr ⟨proper, proper_components path.toList⟩
  simp only [absolute?, filled, Bool.false_eq_true, if_false, begins,
    foldl_push proper (proper_components path.toList), close_assembled whole]

theorem components_assembled (proper : ∀ part ∈ ps, Proper part) :
    components (assembled twofold ps closed) = ps := by
  rw [components_eq, parts_assembled proper, List.filter_eq_self]
  exact fun part mem => decide_eq_true (proper part mem).other

/-- Such a path is made of its own parts again, wherever it is resolved. -/
theorem absolute?_stable (proper : ∀ part ∈ ps, Proper part) (elsewhere : String) :
    absolute? elsewhere (String.ofList (assembled twofold ps closed))
      = some (String.ofList (assembled twofold ps closed)) := by
  have rooted : (assembled twofold ps closed).head? = some '/' := by
    obtain ⟨rest, whole, -⟩ := assembled_begins closed proper
    cases twofold with
    | false => rw [whole]; rfl
    | true => rfl
  have nonempty : String.ofList (assembled twofold ps closed) ≠ "" := by
    intro none
    rw [← String.toList_inj, String.toList_ofList] at none
    rw [none] at rooted
    cases rooted
  have front : decide (Twofold (assembled twofold ps closed)) = twofold := by
    rw [Bool.eq_iff_iff, decide_eq_true_iff, twofold_assembled proper]
  have back : decide ((assembled twofold ps closed).getLast? = some '/') = (closed || ps.isEmpty) := by
    rw [Bool.eq_iff_iff, decide_eq_true_iff, getLast?_assembled proper, Bool.or_eq_true, List.isEmpty_iff]
  have begins : base elsewhere.toList (String.ofList (assembled twofold ps closed)).toList
      = assembled twofold [] false := by
    rw [String.toList_ofList, base_absolute _ rooted, front]
  rw [absolute?_assembled (List.forall_mem_nil _) begins nonempty, String.toList_ofList,
    components_assembled proper, back, List.nil_append]
  simp only [assembled, Bool.or_assoc, Bool.or_self]

-- ---------------------------------------------------------------------------
-- What the absolute form of a path is like
-- ---------------------------------------------------------------------------

/-- A directory as a system names the one it works in: the root, or parts that name something, each behind a
    single slash. -/
def Normal (cwd : String) : Prop :=
  ∃ ps, (∀ part ∈ ps, Proper part) ∧ cwd.toList = assembled false ps false

/-- `whole` is the absolute form of `path` in the directory `cwd`. -/
structure Absolute (cwd path whole : String) : Prop where
  rooted : whole.toList.head? = some '/'
  parts : parts whole.toList = (if path.toList.head? = some '/' then [] else parts cwd.toList)
    ++ (parts path.toList).filter fun part => part ≠ ['.']
  unrepeated : ¬ Twofold path.toList → Unrepeated whole.toList
  twofold : Twofold path.toList →
    ∃ rest, whole.toList = '/' :: rest ∧ rest.head? = some '/' ∧ Unrepeated rest
  closed : Path.parts whole.toList ≠ [] →
    (whole.toList.getLast? = some '/' ↔ path.toList.getLast? = some '/')

/-- The parts in front of those of a path. -/
theorem base_normal (normal : cwd.toList = assembled false ps false) (cs : List Char) :
    base cwd.toList cs
      = assembled (decide (Twofold cs)) (if cs.head? = some '/' then [] else ps) false := by
  by_cases absolute : cs.head? = some '/'
  · rw [base_absolute _ absolute, if_pos absolute]
  · rw [base_relative _ absolute, if_neg absolute, decide_eq_false (not_twofold absolute), normal]

theorem absolute_assembled (proper : ∀ part ∈ ps, Proper part)
    (made : ps = (if path.toList.head? = some '/' then [] else parts cwd.toList)
      ++ (parts path.toList).filter fun part => part ≠ ['.']) :
    Absolute cwd path (String.ofList (assembled (decide (Twofold path.toList)) ps
      (decide (path.toList.getLast? = some '/')))) := by
  obtain ⟨rest, whole, -⟩ := assembled_begins (decide (path.toList.getLast? = some '/')) proper
  have single : Unrepeated (assembled false ps (decide (path.toList.getLast? = some '/'))) :=
    unrepeated_assembled proper
  refine ⟨?_, ?_, fun one => ?_, fun two => ?_, fun some => ?_⟩
  · rw [String.toList_ofList]
    cases decide (Twofold path.toList) with
    | false => rw [whole]; rfl
    | true => rfl
  · rw [String.toList_ofList, parts_assembled proper, made]
  · rwa [String.toList_ofList, decide_eq_false one]
  · rw [String.toList_ofList, decide_eq_true two, assembled_twofold]
    exact ⟨_, rfl, by rw [whole]; rfl, single⟩
  · rw [String.toList_ofList, parts_assembled proper] at some
    rw [String.toList_ofList, getLast?_assembled proper, decide_eq_true_iff, or_iff_left some]

/-- A path that is not empty has an absolute form, which is its own absolute form everywhere. -/
theorem exists_absolute (normal : Normal cwd) (nonempty : path ≠ "") :
    ∃ whole, absolute? cwd path = some whole ∧ Absolute cwd path whole ∧
      ∀ elsewhere, absolute? elsewhere whole = some whole := by
  obtain ⟨ps, proper, directory⟩ := normal
  have start : ∀ part ∈ (if path.toList.head? = some '/' then [] else ps), Proper part := by
    split
    · exact List.forall_mem_nil _
    · exact proper
  have whole := List.forall_mem_append.mpr ⟨start, proper_components path.toList⟩
  have inside : parts cwd.toList = ps := by rw [directory, parts_assembled proper]
  refine ⟨_, absolute?_assembled start (base_normal directory path.toList) nonempty,
    absolute_assembled whole ?_, absolute?_stable whole⟩
  rw [components_eq, inside]

end Path

-- ---------------------------------------------------------------------------
-- Flags
-- ---------------------------------------------------------------------------

theorem pidFileArgs_absolute {cwd path whole : String} (found : Path.absolute? cwd path = some whole) :
    pidFileArgs cwd (some path) = .ok ["--pid-file", whole] := by
  simp only [pidFileArgs, found]

/-- An empty path of a pid file is refused. Any other is passed on in its absolute form, behind the flag, before
    all that there is without it or before what is passed on as it is written. That form as the path of the pid
    file, wherever it is resolved, gives the same arguments. -/
theorem pid_file_absolute {cwd : String} (normal : Path.Normal cwd) (path : String)
    (create : CreateFlags) (exec : ExecFlags) :
    (path = "" →
      { create with pidFile := some path }.args cwd
        = .error (.invalidArgument "pid file : cannot make an empty path absolute") ∧
      { exec with pidFile := some path }.args cwd
        = .error (.invalidArgument "pid file : cannot make an empty path absolute")) ∧
    (path ≠ "" → ∃ whole, Path.Absolute cwd path whole ∧
      (∃ after, { create with pidFile := none }.args cwd = .ok after ∧
        { create with pidFile := some path }.args cwd = .ok ("--pid-file" :: whole :: after)) ∧
      (∃ before, { exec with pidFile := none }.args cwd = .ok (before ++ exec.extraArgs) ∧
        { exec with pidFile := some path }.args cwd
          = .ok (before ++ "--pid-file" :: whole :: exec.extraArgs)) ∧
      ∀ elsewhere,
        { create with pidFile := some whole }.args elsewhere = { create with pidFile := some path }.args cwd ∧
        { exec with pidFile := some whole }.args elsewhere = { exec with pidFile := some path }.args cwd) := by
  constructor
  · rintro rfl
    exact ⟨rfl, rfl⟩
  · intro nonempty
    obtain ⟨whole, found, absolute, stable⟩ := Path.exists_absolute normal nonempty
    have spoken := pidFileArgs_absolute found
    refine ⟨whole, absolute, ⟨_, rfl, ?_⟩,
      ⟨flagWith "--console-socket" exec.consoleSocket ++ flag "--detach" exec.detach, ?_, ?_⟩,
      fun elsewhere => ?_⟩
    · simp [CreateFlags.args, spoken]
    · simp [ExecFlags.args, pidFileArgs]
    · simp [ExecFlags.args, spoken]
    · have again := pidFileArgs_absolute (stable elsewhere)
      simp only [CreateFlags.args, ExecFlags.args, spoken, again, and_self]

/-- A path with a leading `.`, a repeated slash, a `..` and a slash behind a last `.`. -/
theorem pid_file_absolute_untidy :
    Path.Normal "/srv/c" ∧ "./run//../x/./" ≠ "" ∧
      ({ pidFile := some "./run//../x/./" } : CreateFlags).args "/srv/c"
        = .ok ["--pid-file", "/srv/c/run/../x/"] ∧
      ∀ elsewhere, ({ pidFile := some "/srv/c/run/../x/", detach := true } : ExecFlags).args elsewhere
        = .ok ["--detach", "--pid-file", "/srv/c/run/../x/"] := by
  have normal : Path.Normal "/srv/c" := by
    refine ⟨[['s', 'r', 'v'], ['c']], ?_, by decide⟩
    simp only [List.forall_mem_cons]
    exact ⟨⟨by decide, by decide, by decide⟩, ⟨by decide, by decide, by decide⟩, List.forall_mem_nil _⟩
  have nonempty : "./run//../x/./" ≠ "" := by decide
  have resolved : Path.absolute? "/srv/c" "./run//../x/./" = some "/srv/c/run/../x/" := by decide +kernel
  have made : ({ pidFile := some "./run//../x/./" } : CreateFlags).args "/srv/c"
      = .ok ["--pid-file", "/srv/c/run/../x/"] := by
    simp [CreateFlags.args, pidFileArgs_absolute resolved, flagWith, flag]
  have detached : ({ pidFile := some "./run//../x/./", detach := true } : ExecFlags).args "/srv/c"
      = .ok ["--detach", "--pid-file", "/srv/c/run/../x/"] := by
    simp [ExecFlags.args, pidFileArgs_absolute resolved, flagWith, flag]
  obtain ⟨whole, -, ⟨after, -, found⟩, -, stable⟩ :=
    (pid_file_absolute normal "./run//../x/./" {} { detach := true }).2 nonempty
  obtain rfl : "/srv/c/run/../x/" = whole := by
    have same := made.symm.trans found
    injection same with same
    exact (List.cons.inj (List.cons.inj same).2).1
  exact ⟨normal, nonempty, made, fun elsewhere => (stable elsewhere).2.trans detached⟩

end Overseer
