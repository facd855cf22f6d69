import ServiceBus.Text.Case

/-! # Subjects

Server and client work out the subject of a method on their own, each from the names they know, so
the rule is stated once: `instance.svc.service.method` in lower case, without the first part when
there is no instance. -/

namespace ServiceBus

/-- The part of a subject between the instance and the service. -/
def subjectSegment : String := "svc"

/-- The subject that a method of a service is served on. -/
def subject (service method : String) (inst : Option String) : String :=
  let path := subjectSegment ++ "." ++ service ++ "." ++ method
  match inst with
  | none | some "" => Text.lowercase path
  | some name => Text.lowercase (name ++ "." ++ path)

end ServiceBus
