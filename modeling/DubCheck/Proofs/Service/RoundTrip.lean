import DubCheck.Proofs.Document.Members
import DubCheck.Service.Request
/-!
# Requests and the documents they come from

A request keeps its command and its identifier apart from its arguments, while in a document all of
them stand side by side under keys.  The arguments are the members under all keys but three, which
are reserved; so none of them takes the place of another member when the document is written again.

* `decodes_ofDocument`: what is read in a document, with the reason if it is no request.
* `Request.ofDocument_toDocument`: a request with arguments under free keys is read again when it
  has been written.
* `Request.Sound.get?_toDocument`: what is written under each key.
* `standsFor_ofDocument`: a document that asks for something is read, and no other one; the request
  gives back every member of the document.
-/

namespace DubCheck

/-- Nothing but the text itself is equal to a text. -/
lemma Document.equals_string_iff {d : Document} {s : String} :
    d.equals (.string s) = true ↔ d = .string s := by
  cases d with
  | string t => simp [equals, same, sameLeaf]
  | float x => cases x <;> simp [equals, same, sameLeaf]
  | _ => simp [equals, same, sameLeaf]

namespace Service

/-! ## What is read in a document -/

/-- What is read in a document: a request, or the first reason why it is none. -/
inductive Decodes (d : Document) : Except RequestError Request → Prop where
  | notObject (shape : d.isObject = false) : Decodes d (.error .notObject)
  | noCommand (shape : d.isObject = true)
    (missing : ∀ command, d.get? "subcmd" = some (.string command) → command = "") :
    Decodes d (.error .noCommand)
  | elsewhere {command : String} {target : Document}
    (named : d.get? "subcmd" = some (.string command) ∧ command ≠ "")
    (addressed : d.get? "cmd" = some target) (other : target ≠ .string component) :
    Decodes d (.error (.unknownComponent target.display))
  | request {members : List (String × Document)} {command : String} (shape : d = .object members)
    (named : d.get? "subcmd" = some (.string command) ∧ command ≠ "")
    (addressed : ∀ target, d.get? "cmd" = some target → target = .string component) :
    Decodes d (.ok ⟨command, members.filter fun m => !reservedKeys.contains m.1,
      (d.get? "id").getD .null⟩)

theorem decodes_ofDocument (d : Document) : Decodes d (Request.ofDocument d) := by
  cases d with
  | object members =>
    rw [Request.ofDocument]
    split
    · rename_i command hcommand
      dsimp only
      split_ifs with hempty hother
      · refine .noCommand rfl fun name hname => ?_
        obtain rfl : command = name := by simpa [Document.get?, hcommand] using hname
        simpa using hempty
      · have hnamed : command ≠ "" := by simpa using hempty
        cases hcmd : members.lookup "cmd" with
        | none =>
          rw [hcmd, Option.getD_none, Document.equals_string_iff.mpr rfl] at hother
          cases hother
        | some target =>
          rw [hcmd, Option.getD_some, Bool.not_eq_true', Bool.eq_false_iff, ne_eq,
            Document.equals_string_iff] at hother
          exact .elsewhere ⟨hcommand, hnamed⟩ hcmd hother
      · have hnamed : command ≠ "" := by simpa using hempty
        refine .request rfl ⟨hcommand, hnamed⟩ fun target htarget => ?_
        have hlookup : members.lookup "cmd" = some target := htarget
        rw [hlookup, Option.getD_some] at hother
        simpa [Document.equals_string_iff] using hother
    · rename_i hcommand
      exact .noCommand rfl fun command h => absurd h (hcommand command)
  | _ => exact .notObject rfl

/-! ## Requests that can be written -/

/-- A document, unless it is null. -/
def nonNull : Document → Option Document
  | .null => none
  | d => some d

lemma getD_nonNull (d : Document) : (nonNull d).getD .null = d := by
  cases d <;> rfl

lemma nonNull_getD (found : Option Document) : nonNull (found.getD .null) = found.bind nonNull := by
  cases found <;> rfl

namespace Request

variable {r : Request}

/-- A request has a command, and its arguments are under different keys that are not reserved. -/
structure Sound (r : Request) : Prop where
  named : r.command ≠ ""
  distinct : (r.arguments.map (·.1)).Nodup
  free : ∀ key ∈ r.arguments.map (·.1), key ∉ reservedKeys

lemma idMember_cases (d : Document) :
    d = .null ∧ idMember d = [] ∨ nonNull d = some d ∧ idMember d = [("id", d)] := by
  cases d <;> simp [idMember, nonNull]

/-- The members of a request that are not arguments are under different reserved keys. -/
lemma keys_ownMembers (r : Request) :
    (r.ownMembers.map (·.1)).Nodup ∧ ∀ key ∈ r.ownMembers.map (·.1), key ∈ reservedKeys := by
  rcases idMember_cases r.id with ⟨-, h⟩ | ⟨-, h⟩ <;> rw [ownMembers, h] <;>
    simp [reservedKeys]

lemma lookup_ownMembers (r : Request) (key : String) :
    r.ownMembers.lookup key =
      if key = "cmd" then some (.string component)
      else if key = "subcmd" then some (.string r.command)
      else if key = "id" then nonNull r.id
      else none := by
  have hid : (idMember r.id).lookup key = if key = "id" then nonNull r.id else none := by
    rcases idMember_cases r.id with ⟨hnull, h⟩ | ⟨hid, h⟩
    · rw [h, hnull, List.lookup_nil, nonNull, ite_self]
    · rw [h, hid, lookup_cons_eq, List.lookup_nil]
  rw [ownMembers, List.cons_append, List.cons_append, List.nil_append, lookup_cons_eq,
    lookup_cons_eq, hid]

namespace Sound

lemma nodup_append (h : r.Sound) : ((r.ownMembers ++ r.arguments).map (·.1)).Nodup := by
  obtain ⟨hnodup, hreserved⟩ := r.keys_ownMembers
  rw [List.map_append, List.nodup_append]
  refine ⟨hnodup, h.distinct, ?_⟩
  rintro key hown _ hargument rfl
  exact h.free key hargument (hreserved key hown)

/-- No argument takes the place of another member. -/
lemma toDocument_eq (h : r.Sound) : r.toDocument = .object (r.ownMembers ++ r.arguments) :=
  congrArg Document.object (foldl_insertPair h.nodup_append)

lemma distinctKeys_toDocument (h : r.Sound) : r.toDocument.DistinctKeys := by
  rw [h.toDocument_eq]
  exact h.nodup_append

lemma lookup_arguments_of_reserved (h : r.Sound) {key : String} (hkey : key ∈ reservedKeys) :
    r.arguments.lookup key = none :=
  lookup_eq_none_of_not_mem fun hmem => h.free key hmem hkey

/-- What is written under a key: the command, the identifier or the component if the key is
reserved, and otherwise an argument. -/
lemma get?_toDocument (h : r.Sound) (key : String) :
    r.toDocument.get? key =
      if key = "cmd" then some (.string component)
      else if key = "subcmd" then some (.string r.command)
      else if key = "id" then nonNull r.id
      else r.arguments.lookup key := by
  rw [h.toDocument_eq, Document.get?, List.lookup_append, lookup_ownMembers]
  split_ifs with hcmd hcommand hid
  · rfl
  · rfl
  · have hreserved : key ∈ reservedKeys := by
      rw [hid]
      decide
    rw [h.lookup_arguments_of_reserved hreserved, Option.or_none]
  · rfl

/-- Only the arguments are kept as arguments. -/
lemma filter_members (h : r.Sound) :
    (r.ownMembers ++ r.arguments).filter (fun m => !reservedKeys.contains m.1) = r.arguments := by
  have hown : r.ownMembers.filter (fun m => !reservedKeys.contains m.1) = [] := by
    refine List.filter_eq_nil_iff.mpr fun m hm => ?_
    simpa using r.keys_ownMembers.2 m.1 (List.mem_map_of_mem hm)
  have harguments : r.arguments.filter (fun m => !reservedKeys.contains m.1) = r.arguments := by
    refine List.filter_eq_self.mpr fun m hm => ?_
    simpa using h.free m.1 (List.mem_map_of_mem hm)
  rw [List.filter_append, hown, harguments, List.nil_append]

end Sound

/-- A request with arguments under free keys is read again when it has been written. -/
theorem ofDocument_toDocument (h : r.Sound) : ofDocument r.toDocument = .ok r := by
  have hget := h.get?_toDocument
  have hcmd := hget "cmd"
  have hcommand := hget "subcmd"
  have hid := hget "id"
  rw [h.toDocument_eq] at hcmd hcommand hid ⊢
  simp only [Document.get?] at hcmd hcommand hid
  simp only [ofDocument, hcmd, hcommand, hid, h.filter_members]
  simp [getD_nonNull, Document.equals_string_iff, h.named]

end Request

/-! ## Requests and documents -/

/-- A document asks for something: it is an object with a command, and for no other component. -/
structure Asks (d : Document) : Prop where
  shape : d.isObject = true
  named : ∃ command, d.get? "subcmd" = some (.string command) ∧ command ≠ ""
  addressed : ∀ target, d.get? "cmd" = some target → target = .string component

/-- What is under a key of a document when the component is named and no identifier is null. -/
def completed (d : Document) (key : String) : Option Document :=
  if key = "cmd" then some (.string component)
  else if key = "id" then (d.get? "id").bind nonNull
  else d.get? key

/-- A request stands for a document: it gives back all that is in it. -/
structure StandsFor (r : Request) (d : Document) : Prop where
  /-- What is written is the document, with the component and without an identifier that is null. -/
  written : ∀ key, r.toDocument.get? key = completed d key
  /-- No key is written twice. -/
  distinct : r.toDocument.DistinctKeys
  /-- What is under a free key is an argument. -/
  given : ∀ key value, key ∉ reservedKeys → d.get? key = some value → r.require key = .ok value
  /-- Nothing else is an argument. -/
  missing : ∀ key, key ∈ reservedKeys ∨ d.get? key = none → r.require key = .error (.missing key)
  /-- The request is read again in what is written. -/
  again : Request.ofDocument r.toDocument = .ok r

namespace Decodes

variable {d : Document} {r : Request} {e : RequestError}

lemma asks (h : Decodes d (.ok r)) : Asks d := by
  cases h with
  | request shape named addressed => exact ⟨by rw [shape]; rfl, ⟨_, named⟩, addressed⟩

lemma not_asks (h : Decodes d (.error e)) : ¬ Asks d := by
  rintro ⟨hshape, ⟨command, hcommand, hne⟩, haddressed⟩
  cases h with
  | notObject shape =>
    rw [shape] at hshape
    cases hshape
  | noCommand shape missing => exact hne (missing command hcommand)
  | elsewhere named addressed other => exact other (haddressed _ addressed)

lemma lookup_arguments (h : Decodes d (.ok r)) (key : String) :
    r.arguments.lookup key = if key ∈ reservedKeys then none else d.get? key := by
  cases h with
  | request shape =>
    refine (lookup_filter_key (fun key => !reservedKeys.contains key) key).trans ?_
    by_cases hkey : key ∈ reservedKeys <;> simp [hkey, shape, Document.get?]

lemma sound (h : Decodes d (.ok r)) (hd : d.DistinctKeys) : r.Sound := by
  cases h with
  | request shape named =>
    rw [shape] at hd
    refine ⟨named.2, hd.sublist (List.filter_sublist.map _), fun key hkey => ?_⟩
    obtain ⟨m, hm, rfl⟩ := List.mem_map.mp hkey
    simpa using (List.mem_filter.mp hm).2

lemma own (h : Decodes d (.ok r)) :
    d.get? "subcmd" = some (.string r.command) ∧ r.id = (d.get? "id").getD .null := by
  cases h with
  | request _ named => exact ⟨named.1, rfl⟩

/-- What is written under each key of a document that is read and written again. -/
lemma get?_toDocument (h : Decodes d (.ok r)) (hd : d.DistinctKeys) (key : String) :
    r.toDocument.get? key = completed d key := by
  obtain ⟨hcommand, hid⟩ := h.own
  have hfree : key ≠ "cmd" → key ≠ "subcmd" → key ≠ "id" → key ∉ reservedKeys := by
    intro hcmd hsubcmd hid hmem
    simp [reservedKeys, hcmd, hsubcmd, hid] at hmem
  rw [(h.sound hd).get?_toDocument, completed]
  by_cases hcmd : key = "cmd"
  · rw [if_pos hcmd, if_pos hcmd]
  rw [if_neg hcmd, if_neg hcmd]
  by_cases hsubcmd : key = "subcmd"
  · rw [if_pos hsubcmd, hsubcmd, if_neg (by decide), hcommand]
  rw [if_neg hsubcmd]
  split
  · rw [hid, nonNull_getD]
  · rename_i hkey
    rw [h.lookup_arguments, if_neg (hfree hcmd hsubcmd hkey)]

lemma standsFor (h : Decodes d (.ok r)) (hd : d.DistinctKeys) : StandsFor r d where
  written := h.get?_toDocument hd
  distinct := (h.sound hd).distinctKeys_toDocument
  given key value hkey hvalue := by
    rw [Request.require, h.lookup_arguments, if_neg hkey, hvalue]
  missing key hkey := by
    have hnone : r.arguments.lookup key = none := by
      rw [h.lookup_arguments]
      split
      · rfl
      · rename_i hfree
        exact hkey.resolve_left hfree
    rw [Request.require, hnone]
  again := Request.ofDocument_toDocument (h.sound hd)

end Decodes

/-- **Requests and documents.**  A document is read as a request exactly if it asks for something.
What is written for the request is this document, with the component named and a null identifier
left out; the members under free keys are the arguments, and nothing else is; and the request is
read again in what is written.  No key comes twice in a document that has been read itself. -/
theorem standsFor_ofDocument {d : Document} (h : d.DistinctKeys) :
    (Asks d → ∃ r, Request.ofDocument d = .ok r ∧ StandsFor r d) ∧
      (¬ Asks d → ∃ e, Request.ofDocument d = .error e) := by
  have hdecodes := decodes_ofDocument d
  cases hr : Request.ofDocument d with
  | ok r =>
    rw [hr] at hdecodes
    exact ⟨fun _ => ⟨r, rfl, hdecodes.standsFor h⟩, fun hnot => absurd hdecodes.asks hnot⟩
  | error e =>
    rw [hr] at hdecodes
    exact ⟨fun hasks => absurd hasks hdecodes.not_asks, fun _ => ⟨e, rfl⟩⟩

/-- A line that asks for something, with an identifier that is null and a key that comes twice. -/
def sampleLine : String :=
  "\x7b\"mode\": \"debug\", \"id\": null, \"subcmd\": \"build\", \"mode\": true\x7d"

/-- The document on it. -/
def sampleDocument : Document :=
  .object [("mode", .bool true), ("id", .null), ("subcmd", .string "build")]

/-- A document that asks somebody else for something. -/
def strayDocument : Document :=
  .object [("cmd", .string "dcd"), ("subcmd", .string "build")]

theorem standsFor_ofDocument_sampleDocument :
    Document.read sampleLine.toList = .ok sampleDocument ∧
      (∃ r, Request.ofDocument sampleDocument = .ok r ∧ StandsFor r sampleDocument) ∧
      ∃ e, Request.ofDocument strayDocument = .error e := by
  have hread : Document.read sampleLine.toList = .ok sampleDocument := by cbv
  have hstray : strayDocument.DistinctKeys := by
    simp [strayDocument, Document.DistinctKeys]
  refine ⟨hread, (standsFor_ofDocument (Document.distinctKeys_of_read hread)).1 ⟨rfl, ?_, ?_⟩,
    (standsFor_ofDocument hstray).2 ?_⟩
  · exact ⟨"build", by simp [sampleDocument, Document.get?, lookup_cons_eq]⟩
  · simp [sampleDocument, Document.get?, lookup_cons_eq]
  · rintro ⟨-, -, haddressed⟩
    have hother := haddressed (.string "dcd") (by simp [strayDocument, Document.get?])
    simp [component] at hother

end Service

end DubCheck
