import FactGuard.Fact.Meta

/-!
# Fact/Core — the facts that every agent knows

The conversation engine derives these facts for every agent.
-/

namespace FactGuard.Fact

/-- The core facts under their names. -/
def coreFacts : List (String × Meta) := [
  ("operation_type", .text "Tipo de operación" ["RENT", "SELL"]
    "Operación inmobiliaria detectada en la conversación (alquiler o venta)"),
  ("property_type", .text "Tipo de propiedad" ["HOUSE", "APARTMENT", "LAND", "COMMERCIAL"]
    "Tipo de inmueble que busca el lead"),
  ("property_found", .boolean "Propiedad encontrada"
    "Se identificó una propiedad concreta del catálogo"),
  ("has_contact", .boolean "Tiene contacto" "El lead compartió teléfono o email"),
  ("has_search_params", .boolean "Tiene parámetros de búsqueda"
    "Se conocen zona, presupuesto o características buscadas"),
  ("has_budget", .boolean "Tiene presupuesto" "El lead indicó un presupuesto"),
  ("visit_scheduled", .boolean "Visita agendada" "Ya existe una visita agendada con el lead"),
  ("wants_human_agent", .boolean "Pide hablar con un asesor"
    "El lead pidió ser atendido por una persona")]

/-- Whether a name is that of a core fact. -/
def isCore (fact : String) : Bool := coreFacts.any fun (name, _) => name = fact

end FactGuard.Fact
