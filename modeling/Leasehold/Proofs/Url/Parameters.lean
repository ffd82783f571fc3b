import Leasehold.Proofs.Text.Percent
import Leasehold.Url

/-! Reading the parameters in the query of a URL. What `addParameter` writes is read again as the
parameters that were there and the new one. -/
namespace Leasehold.Url

open Text (percentDecode bytes)

/-- The bytes that a text in the form of parameters stands for. -/
def formDecode (text : List Char) : List UInt8 :=
  percentDecode (text.map fun c => if c = '+' then ' ' else c)

/-- The names and values of the parameters in a query. -/
def parameters : Option (List Char) → List (List UInt8 × List UInt8)
  | none => []
  | some text => (Text.splitAt '&' text).map fun pair =>
      let name := pair.takeWhile (· ≠ '=')
      (formDecode name, formDecode (pair.drop (name.length + 1)))

/-- A byte in the form of parameters is a character that stands for it, or percent-encoded. -/
theorem formByte_cases : ∀ value < 256,
    ((formByte (UInt8.ofNat value)).map fun c => if c = '+' then ' ' else c) =
        Text.percentByte (UInt8.ofNat value) ∨
      ((formByte (UInt8.ofNat value)).map fun c => if c = '+' then ' ' else c) =
          [Char.ofNat value] ∧ Char.ofNat value ≠ '%' ∧
        Text.charBytes (Char.ofNat value) = [UInt8.ofNat value] := by
  decide +kernel

/-- A byte in the form of parameters has no marks between parameters in it. -/
theorem formByte_unmarked : ∀ value < 256,
    (formByte (UInt8.ofNat value)).all (fun c => c ≠ '&' ∧ c ≠ '=') = true := by
  decide +kernel

theorem formChars_unmarked {text : List Char} {c : Char} (member : c ∈ formChars text) :
    c ≠ '&' ∧ c ≠ '=' := by
  obtain ⟨byte, _, written⟩ := List.mem_flatMap.mp member
  have unmarked := formByte_unmarked byte.toNat byte.toNat_lt
  rw [UInt8.ofNat_toNat] at unmarked
  exact of_decide_eq_true (List.all_eq_true.mp unmarked c written)

/-- What is written in the form of parameters is read again. -/
theorem formDecode_formChars (text : List Char) : formDecode (formChars text) = bytes text := by
  unfold formDecode formChars
  show percentDecode (((bytes text).flatMap formByte).map _) = bytes text
  induction bytes text with
  | nil => exact Text.percentDecode_nil
  | cons byte rest ih =>
    rw [List.flatMap_cons, List.map_append]
    have written := formByte_cases byte.toNat byte.toNat_lt
    rw [UInt8.ofNat_toNat] at written
    rcases written with encoded | ⟨kept, plain, stands⟩
    · have read (more : List Char) :
          percentDecode (Text.percentByte byte ++ more) = byte :: percentDecode more := by
        simpa using Text.percentDecode_percentBytes [byte] more
      rw [encoded, read, ih]
    · rw [kept, List.singleton_append, Text.percentDecode_cons plain, stands, ih]
      rfl

theorem splitAt_unmarked {separator : Char} {text : List Char} (unmarked : separator ∉ text) :
    Text.splitAt separator text = [text] := by
  induction text with
  | nil => rfl
  | cons c rest ih =>
    rw [List.mem_cons, not_or] at unmarked
    rw [Text.splitAt, if_neg (Ne.symm unmarked.1), ih unmarked.2]

/-- A parameter as it is written. -/
def parameterChars (name value : List Char) : List Char := formChars name ++ '=' :: formChars value

theorem parameters_parameterChars (name value : List Char) :
    parameters (some (parameterChars name value)) = [(bytes name, bytes value)] := by
  have single : '&' ∉ parameterChars name value := by
    intro member
    rcases List.mem_append.mp member with inside | behind
    · exact (formChars_unmarked inside).1 rfl
    · rcases List.mem_cons.mp behind with same | behind
      · cases same
      · exact (formChars_unmarked behind).1 rfl
  have front : (parameterChars name value).takeWhile (· ≠ '=') = formChars name := by
    rw [parameterChars, List.takeWhile_append_of_pos, List.takeWhile_cons_of_neg (by simp),
      List.append_nil]
    intro c member
    simpa using (formChars_unmarked member).2
  have behind : (parameterChars name value).drop ((formChars name).length + 1) = formChars value := by
    rw [parameterChars, List.drop_length_add_append]
    rfl
  simp only [parameters, splitAt_unmarked single, List.map_cons, List.map_nil, front, behind,
    formDecode_formChars]

/-- A new parameter is read behind those that were there. -/
theorem parameters_addParameter {url : Url} (usual : url.query ≠ some []) (name value : List Char) :
    parameters (url.addParameter name value).query =
        parameters url.query ++ [(bytes name, bytes value)] ∧
      (url.addParameter name value).query ≠ some [] := by
  have written := parameters_parameterChars name value
  match query : url.query with
  | none =>
    have added : (url.addParameter name value).query = some (parameterChars name value) := by
      simp [addParameter, query, parameterChars]
    refine ⟨by rw [added, written]; rfl, ?_⟩
    rw [added]
    simp [parameterChars]
  | some [] => exact absurd query usual
  | some (c :: text) =>
    have added : (url.addParameter name value).query =
        some (c :: text ++ '&' :: parameterChars name value) := by
      simp [addParameter, query, parameterChars]
    refine ⟨?_, by rw [added]; simp⟩
    rw [added, parameters, Text.splitAt_append, List.map_append, parameters]
    exact congrArg _ written

/-- Parameters that are added one after the other are read in that order. -/
theorem parameters_foldl {url : Url} (usual : url.query ≠ some []) (added : List (String × String)) :
    parameters (added.foldl (fun url (name, value) => url.addParameter name.toList value.toList)
        url).query =
      parameters url.query ++ added.map fun (name, value) =>
        (bytes name.toList, bytes value.toList) := by
  induction added generalizing url with
  | nil => simp
  | cons parameter rest ih =>
    obtain ⟨read, later⟩ :=
      parameters_addParameter usual parameter.1.toList parameter.2.toList
    rw [List.foldl_cons, ih later, read, List.append_assoc]
    rfl

/-- Parameters change nothing but the query. -/
theorem foldl_addParameter (url : Url) (added : List (String × String)) :
    ∃ query, added.foldl (fun url (name, value) => url.addParameter name.toList value.toList) url =
      { url with query } := by
  induction added generalizing url with
  | nil => exact ⟨url.query, rfl⟩
  | cons parameter rest ih =>
    obtain ⟨query, same⟩ := ih (url.addParameter parameter.1.toList parameter.2.toList)
    exact ⟨query, by rw [List.foldl_cons, same]; rfl⟩

end Leasehold.Url
