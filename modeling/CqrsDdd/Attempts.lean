import Mathlib.Data.List.Basic
import Mathlib.Data.List.Forall2

/-! Computations that may raise, as `Except`: what it means that a chain of them,
or one over the items of a list, returns. -/
namespace CqrsDdd.Attempts

variable {Failure Input Output Result : Type}

theorem bind_ok {attempt : Except Failure Input} {next : Input → Except Failure Output} {result : Output} :
    attempt >>= next = .ok result ↔ ∃ value, attempt = .ok value ∧ next value = .ok result := by
  cases attempt with
  | error failure => simp [bind,Except.bind]
  | ok value => simp [bind,Except.bind]

theorem pure_ok {value result : Output} : (pure value : Except Failure Output) = .ok result ↔ value = result := by
  simp [pure,Except.pure]

theorem mapError_ok {Other : Type} {attempt : Except Failure Output} {name : Failure → Other} {result : Output} :
    attempt.mapError name = .ok result ↔ attempt = .ok result := by
  cases attempt with
  | error failure => simp [Except.mapError]
  | ok value => simp [Except.mapError]

theorem map_ok {attempt : Except Failure Input} {change : Input → Output} {result : Output} :
    attempt.map change = .ok result ↔ ∃ value, attempt = .ok value ∧ change value = result := by
  cases attempt with
  | error failure => simp [Except.map]
  | ok value => simp [Except.map]

theorem map_map {Last : Type} (attempt : Except Failure Input) (first : Input → Output) (second : Output → Last) :
    (attempt.map first).map second = attempt.map fun input => second (first input) := by
  cases attempt with
  | error failure => rfl
  | ok value => rfl

def Answers (attempt : Input → Except Failure Output) (inputs : List Input) (outputs : List Output) : Prop :=
  (∀ input ∈ inputs, ∃ output ∈ outputs, attempt input = .ok output) ∧
    ∀ output ∈ outputs, ∃ input ∈ inputs, attempt input = .ok output

theorem Answers.cons {attempt : Input → Except Failure Output} {input : Input} {output : Output} {inputs : List Input}
    {outputs : List Output} (first : attempt input = .ok output) (rest : Answers attempt inputs outputs) :
    Answers attempt (input::inputs) (output::outputs) := by
  constructor
  · intro other member
    rcases List.mem_cons.mp member with rfl | later
    · exact ⟨output,List.mem_cons_self,first⟩
    · obtain ⟨result,present,answered⟩ := rest.1 other later
      exact ⟨result,List.mem_cons_of_mem output present,answered⟩
  · intro other member
    rcases List.mem_cons.mp member with rfl | later
    · exact ⟨input,List.mem_cons_self,first⟩
    · obtain ⟨source,present,answered⟩ := rest.2 other later
      exact ⟨source,List.mem_cons_of_mem input present,answered⟩

theorem Answers.nil (attempt : Input → Except Failure Output) : Answers attempt [] [] :=
  ⟨fun _ member => absurd member List.not_mem_nil,fun _ member => absurd member List.not_mem_nil⟩

theorem mapM_ok {attempt : Input → Except Failure Output} {inputs : List Input} {outputs : List Output}
    (returned : inputs.mapM attempt = .ok outputs) : Answers attempt inputs outputs := by
  induction inputs generalizing outputs with
  | nil =>
    rw [List.mapM_nil,pure_ok] at returned
    subst returned
    exact .nil attempt
  | cons input rest ih =>
    rw [List.mapM_cons,bind_ok] at returned
    obtain ⟨output,first,returned⟩ := returned
    obtain ⟨later,others,same⟩ := bind_ok.mp returned
    rw [pure_ok] at same
    subst same
    exact .cons first (ih others)

theorem mapM_forall₂ {attempt : Input → Except Failure Output} {inputs : List Input} {outputs : List Output} :
    inputs.mapM attempt = .ok outputs ↔ List.Forall₂ (fun input output => attempt input = .ok output) inputs outputs := by
  induction inputs generalizing outputs with
  | nil =>
    rw [List.mapM_nil,pure_ok,List.forall₂_nil_left_iff]
    exact eq_comm
  | cons input rest ih =>
    rw [List.mapM_cons,bind_ok]
    constructor
    · rintro ⟨output,first,returned⟩
      obtain ⟨later,others,same⟩ := bind_ok.mp returned
      obtain rfl := pure_ok.mp same
      exact .cons first (ih.mp others)
    · intro related
      cases related with
      | cons first others => exact ⟨_,first,bind_ok.mpr ⟨_,ih.mpr others,rfl⟩⟩

theorem mapM_total {attempt : Input → Except Failure Output} (returns : ∀ input, ∃ output, attempt input = .ok output)
    (inputs : List Input) : ∃ outputs, inputs.mapM attempt = .ok outputs ∧ outputs.length = inputs.length := by
  induction inputs with
  | nil => exact ⟨[],rfl,rfl⟩
  | cons input rest ih =>
    obtain ⟨output,first⟩ := returns input
    obtain ⟨outputs,others,length⟩ := ih
    refine ⟨output::outputs,?_,by rw [List.length_cons,List.length_cons,length]⟩
    rw [List.mapM_cons,bind_ok]
    exact ⟨output,first,bind_ok.mpr ⟨outputs,others,rfl⟩⟩

theorem related_left {related : Input → Output → Prop} {inputs : List Input} {outputs : List Output}
    (all : List.Forall₂ related inputs outputs) {index : Nat} {input : Input} (there : inputs[index]? = some input) :
    ∃ output, outputs[index]? = some output ∧ related input output := by
  induction all generalizing index with
  | nil => cases there
  | cons first _ ih =>
    cases index with
    | zero =>
      cases there
      exact ⟨_,rfl,first⟩
    | succ index => exact ih there

theorem related_right {related : Input → Output → Prop} {inputs : List Input} {outputs : List Output}
    (all : List.Forall₂ related inputs outputs) {index : Nat} {output : Output} (there : outputs[index]? = some output) :
    ∃ input, inputs[index]? = some input ∧ related input output :=
  related_left all.flip there

theorem exists_related {related : Input → Output → Prop} {inputs : List Input} {outputs : List Output}
    (all : List.Forall₂ related inputs outputs) :
    (∀ input ∈ inputs, ∃ output ∈ outputs, related input output) ∧
      ∀ output ∈ outputs, ∃ input ∈ inputs, related input output := by
  constructor
  · intro input member
    obtain ⟨index,there⟩ := List.mem_iff_getElem?.mp member
    obtain ⟨output,found,here⟩ := related_left all there
    exact ⟨output,List.mem_iff_getElem?.mpr ⟨index,found⟩,here⟩
  · intro output member
    obtain ⟨index,there⟩ := List.mem_iff_getElem?.mp member
    obtain ⟨input,found,here⟩ := related_right all there
    exact ⟨input,List.mem_iff_getElem?.mpr ⟨index,found⟩,here⟩

theorem related_through {Between : Type} {first : Input → Between → Prop} {second : Between → Output → Prop}
    {inputs : List Input} {outputs : List Output}
    (all : List.Forall₂ (fun input output => ∃ between, first input between ∧ second between output) inputs outputs) :
    ∃ betweens, List.Forall₂ first inputs betweens ∧ List.Forall₂ second betweens outputs := by
  induction all with
  | nil => exact ⟨[],.nil,.nil⟩
  | cons here _ ih =>
    obtain ⟨between,there,back⟩ := here
    obtain ⟨betweens,others,returns⟩ := ih
    exact ⟨between::betweens,.cons there others,.cons back returns⟩

theorem related_comp {Between : Type} {first : Input → Between → Prop} {second : Between → Output → Prop}
    {inputs : List Input} {betweens : List Between} {outputs : List Output} (there : List.Forall₂ first inputs betweens)
    (back : List.Forall₂ second betweens outputs) :
    List.Forall₂ (fun input output => ∃ between ∈ betweens, first input between ∧ second between output) inputs outputs := by
  induction there generalizing outputs with
  | nil =>
    cases back
    exact .nil
  | @cons input between inputs betweens here _ ih =>
    cases back with
    | cons returns others =>
      refine .cons ⟨between,List.mem_cons_self,here,returns⟩ ((ih others).imp fun _ _ later => ?_)
      obtain ⟨other,member,both⟩ := later
      exact ⟨other,List.mem_cons_of_mem between member,both⟩

theorem forM_ok {attempt : Input → Except Failure Unit} {inputs : List Input} :
    inputs.forM attempt = .ok () ↔ ∀ input ∈ inputs, attempt input = .ok () := by
  induction inputs with
  | nil => simp [pure,Except.pure]
  | cons input rest ih =>
    rw [List.forall_mem_cons,← ih]
    change (attempt input >>= fun _ => rest.forM attempt) = .ok () ↔ _
    rw [bind_ok]
    exact ⟨fun ⟨_,first,others⟩ => ⟨first,others⟩,fun ⟨first,others⟩ => ⟨(),first,others⟩⟩

/-- The items for which the attempt returns true; the first that raises ends it. -/
def select (attempt : Input → Except Failure Bool) : List Input → Except Failure (List Input)
  | [] => .ok []
  | input::rest => do
    if ← attempt input then return input::(← select attempt rest) else select attempt rest

theorem select_ok {attempt : Input → Except Failure Bool} {inputs outputs : List Input}
    (returned : select attempt inputs = .ok outputs) :
    ∀ output ∈ outputs, output ∈ inputs ∧ attempt output = .ok true := by
  induction inputs generalizing outputs with
  | nil =>
    obtain rfl := Except.ok.inj returned
    exact fun _ member => absurd member List.not_mem_nil
  | cons input rest ih =>
    obtain ⟨chosen,answered,returned⟩ := bind_ok.mp returned
    have later : ∀ {fewer : List Input}, select attempt rest = .ok fewer →
        ∀ output ∈ fewer, output ∈ input::rest ∧ attempt output = .ok true := by
      intro fewer found output member
      obtain ⟨present,true⟩ := ih found output member
      exact ⟨List.mem_cons_of_mem input present,true⟩
    cases chosen with
    | false => exact later returned
    | true =>
      obtain ⟨fewer,found,returned⟩ := bind_ok.mp returned
      obtain rfl := pure_ok.mp returned
      intro output member
      rcases List.mem_cons.mp member with rfl | inside
      · exact ⟨List.mem_cons_self,answered⟩
      · exact later found output inside

theorem select_answered {attempt : Input → Except Failure Bool} {inputs outputs : List Input}
    (returned : select attempt inputs = .ok outputs) : ∀ input ∈ inputs, ∃ chosen, attempt input = .ok chosen := by
  induction inputs generalizing outputs with
  | nil => exact fun _ member => absurd member List.not_mem_nil
  | cons first rest ih =>
    obtain ⟨chosen,answered,returned⟩ := bind_ok.mp returned
    have later : ∃ fewer, select attempt rest = .ok fewer := by
      cases chosen with
      | false => exact ⟨outputs,returned⟩
      | true =>
        obtain ⟨fewer,found,_⟩ := bind_ok.mp returned
        exact ⟨fewer,found⟩
    obtain ⟨fewer,found⟩ := later
    intro input member
    rcases List.mem_cons.mp member with rfl | inside
    · exact ⟨chosen,answered⟩
    · exact ih found input inside

theorem select_of_answers {attempt : Input → Except Failure Bool} {keep : Input → Bool} {inputs : List Input}
    (answers : ∀ input ∈ inputs, attempt input = .ok (keep input)) :
    select attempt inputs = .ok (inputs.filter keep) := by
  induction inputs with
  | nil => rfl
  | cons first rest ih =>
    have later := ih fun input member => answers input (List.mem_cons_of_mem first member)
    rw [select,answers first List.mem_cons_self,later]
    cases kept : keep first with
    | true =>
      rw [List.filter_cons_of_pos kept]
      rfl
    | false =>
      rw [List.filter_cons_of_neg (by simp [kept])]
      rfl

theorem select_map (attempt : Output → Except Failure Bool) (shape : Input → Output) (inputs : List Input) :
    (select (fun input => attempt (shape input)) inputs).map (List.map shape) = select attempt (inputs.map shape) := by
  induction inputs with
  | nil => rfl
  | cons input rest ih =>
    rw [List.map_cons,select,select,← ih]
    cases attempt (shape input) with
    | error failure => rfl
    | ok chosen =>
      cases select (fun input => attempt (shape input)) rest with
      | error failure => cases chosen <;> rfl
      | ok outputs => cases chosen <;> rfl

/-- Items for which the attempt returns false may be left out. -/
theorem select_filter {attempt : Input → Except Failure Bool} {keep : Input → Bool} {inputs : List Input}
    (rejected : ∀ input ∈ inputs, keep input = false → attempt input = .ok false) :
    select attempt (inputs.filter keep) = select attempt inputs := by
  induction inputs with
  | nil => rfl
  | cons input rest ih =>
    have later := ih fun other member => rejected other (List.mem_cons_of_mem input member)
    cases kept : keep input with
    | true => rw [List.filter_cons_of_pos kept,select,select,later]
    | false =>
      rw [List.filter_cons_of_neg (by simp [kept]),later,select,rejected input List.mem_cons_self kept]
      rfl

end CqrsDdd.Attempts
