import ApiModel.LocalPath
import ApiModel.Pointer
import ApiModel.Url.Basic

/-!
# References

A reference is a document and, after a number sign, a pointer into it. It is local if it names no
document or the document itself, by the URI that the document declares for itself.
-/

namespace ApiModel.Reference

/-- Whether the document part of a reference names the document whose own URI is `self`.

Absolute URLs agree in scheme, host, port and path. A URI that is an absolute path agrees with every
URL of that path. Other paths agree by their components. -/
def namesDocument (target self : String) : Bool :=
  target = self ||
    match Url.parse? target, Url.parse? self with
    | some target, some self => target = self
    | some target, none => self.toList.head? = some '/' && target.path = self
    | none, none => LocalPath.components target = LocalPath.components self
    | none, some _ => false

/-- The pointer of a local reference; nothing for a reference to another document or without a
number sign. -/
def local? (reference : String) (self : Option String) : Option String :=
  match Split.once? '#' reference.toList with
  | none => none
  | some (document, fragment) =>
    let pointer := "#" ++ String.ofList fragment
    if document.isEmpty then some pointer
    else
      match self with
      | none => none
      | some self => if namesDocument (String.ofList document) self then some pointer else none

end ApiModel.Reference
