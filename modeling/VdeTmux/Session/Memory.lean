import VdeTmux.Foundation.Lists
import VdeTmux.Session.Navigation

/-!
# What is remembered

The key of a client and a category tells clients apart, and categories up to the characters that
are not kept in it. What is read back is the last session remembered under the key, without the
white space around it.
-/

open Foundation VdeTmux.Category VdeTmux.Daemon
namespace VdeTmux.Session

theorem hexDigit_ne_underscore : ∀ n < 16, hexDigit n ≠ '_' := by decide

theorem hexDigit_injective : ∀ m < 16, ∀ n < 16, hexDigit m = hexDigit n → m = n := by decide

theorem hexByte_injective : Function.Injective hexByte := by
  intro a b h
  obtain ⟨hhigh, htail⟩ := List.cons.inj h
  obtain ⟨hlow, -⟩ := List.cons.inj htail
  have ha := a.toNat_lt
  have hb := b.toNat_lt
  have hdiv := hexDigit_injective _ (by omega) _ (by omega) hhigh
  have hmod := hexDigit_injective _ (by omega) _ (by omega) hlow
  refine UInt8.toNat_inj.mp ?_
  omega

theorem hexBytes_injective {bytes bytes' : List UInt8}
    (h : bytes.flatMap hexByte = bytes'.flatMap hexByte) : bytes = bytes' := by
  induction bytes generalizing bytes' with
  | nil =>
    cases bytes' with
    | nil => rfl
    | cons b bytes' => cases h
  | cons a bytes ih =>
    cases bytes' with
    | nil => cases h
    | cons b bytes' =>
      rw [List.flatMap_cons, List.flatMap_cons] at h
      obtain ⟨hbyte, htail⟩ := List.append_inj h rfl
      rw [hexByte_injective hbyte, ih htail]

theorem underscore_not_mem_hex (bytes : List UInt8) : '_' ∉ bytes.flatMap hexByte := by
  intro h
  obtain ⟨b, -, hb⟩ := List.mem_flatMap.mp h
  have hlt := b.toNat_lt
  rcases List.mem_pair.mp hb with heq | heq
  · exact hexDigit_ne_underscore _ (by omega) heq.symm
  · exact hexDigit_ne_underscore _ (by omega) heq.symm

theorem utf8_injective {s t : String} (h : utf8 s = utf8 t) : s = t :=
  String.toByteArray_inj.mp (ByteArray.ext (Array.toList_inj.mp h))

theorem clientMemoryKey_eq_iff {client client' category category' : String} :
    clientMemoryKey client category = clientMemoryKey client' category' ↔
      client = client' ∧ safeCategory category = safeCategory category' := by
  constructor
  · intro h
    have hchars := congrArg String.toList h
    have hunderscore : "_".toList = ['_'] := rfl
    simp only [clientMemoryKey, String.toList_append, String.toList_ofList, List.append_assoc,
      hunderscore, List.singleton_append] at hchars
    have htail := List.append_cancel_left hchars
    obtain ⟨hhex, hsafe⟩ := append_separator_inj (underscore_not_mem_hex _)
      (underscore_not_mem_hex _) htail
    exact ⟨utf8_injective (hexBytes_injective hhex), hsafe⟩
  · rintro ⟨rfl, hsafe⟩
    rw [clientMemoryKey, clientMemoryKey, hsafe]

def readBack (value : String) : Option String :=
  if Text.trim value = "" then none else some (Text.trim value)

theorem showGlobalOption_eq (options : GlobalOptions) (key : String) :
    showGlobalOption options key = options[key]?.bind readBack := by
  rw [showGlobalOption]
  cases options[key]? with
  | none => rfl
  | some value => rfl

def lastRemembered (calls : List Remember) (client category : String) : Option String :=
  (calls.filter fun r => r.clientName = client ∧ r.category = category).getLast?.map
    Remember.sessionName

/-- The session that was remembered last for this client and a category encoded like this. -/
def lastUnderKey (calls : List Remember) (client category : String) : Option String :=
  (calls.filter fun r => r.clientName = client ∧
    safeCategory r.category = safeCategory category).getLast?.map Remember.sessionName

theorem optionsAfter_concat (calls : List Remember) (r : Remember) :
    optionsAfter (calls ++ [r]) = (optionsAfter calls).insert
      (clientMemoryKey r.clientName r.category) r.sessionName := by
  rw [optionsAfter, List.foldl_append]
  rfl

theorem getElem?_optionsAfter (calls : List Remember) (client category : String) :
    (optionsAfter calls)[clientMemoryKey client category]? =
      lastUnderKey calls client category := by
  induction calls using List.reverseRecOn with
  | nil => rfl
  | append_singleton calls r ih =>
    rw [optionsAfter_concat, Maps.getElem?_insert, lastUnderKey, List.filter_append]
    by_cases hkey : r.clientName = client ∧ safeCategory r.category = safeCategory category
    · rw [if_pos (clientMemoryKey_eq_iff.mpr ⟨hkey.1.symm, hkey.2.symm⟩),
        List.filter_cons_of_pos (by simpa using hkey), List.filter_nil, List.getLast?_concat]
      rfl
    · have hne : clientMemoryKey client category ≠ clientMemoryKey r.clientName r.category := by
        intro h
        obtain ⟨hclient, hsafe⟩ := clientMemoryKey_eq_iff.mp h
        exact hkey ⟨hclient.symm, hsafe.symm⟩
      rw [if_neg hne, List.filter_cons_of_neg (by simpa using hkey),
        List.filter_nil, List.append_nil, ih]
      rfl

theorem rememberedSessionForClient_eq (calls : List Remember) (client category : String) :
    rememberedSessionForClient (optionsAfter calls) client category =
      (lastUnderKey calls client category).bind readBack := by
  rw [rememberedSessionForClient, showGlobalOption_eq, getElem?_optionsAfter]

theorem lastRemembered_concat (calls : List Remember) (r : Remember) :
    lastRemembered (calls ++ [r]) r.clientName r.category = some r.sessionName := by
  rw [lastRemembered, List.filter_append, List.filter_cons_of_pos (by simp), List.filter_nil, List.getLast?_concat]
  rfl

end VdeTmux.Session
