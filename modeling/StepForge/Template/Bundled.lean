import StepForge.Text.Basic

/-!
# `StepForge.Template.Bundled` — the templates that come with the library

One template for each category of steps, one for the index and one for the manifest. Each ends with a
line feed.

## Contents
- `triggerSource`, `searchSource`, `writeSource`, `indexSource`, `manifestSource` — their texts.
- `bundled` — the texts by file name.
-/

namespace StepForge.Template

/-- Lines, each ended by a line feed. -/
def linesText (lines : List Text) : Text := lines.flatMap (· ++ [10])

/-- The module of a trigger. -/
def triggerSource : Text := linesText
  ["// triggers on \x7b\x7b lower_noun \x7d\x7d",
   "const trigger\x7b\x7b camel[:1]|upper \x7d\x7d\x7b\x7b camel[1:] \x7d\x7d = (z, bundle) => \x7b",
   "  const responsePromise = z.request(\x7b",
   "    method: 'GET',",
   "    url: 'https://example.com/api/\x7b\x7b key \x7d\x7d.json',",
   "    params: bundle.inputData",
   "  \x7d);",
   "  return responsePromise",
   "    .then(response => z.JSON.parse(response.content));",
   "\x7d;",
   "",
   "module.exports = \x7b",
   "  key: '\x7b\x7b key \x7d\x7d',",
   "  noun: '\x7b\x7b noun \x7d\x7d',",
   "",
   "  display: \x7b",
   "    label: 'New \x7b\x7b noun \x7d\x7d',",
   "    description: 'Triggers on a new \x7b\x7b lower_noun \x7d\x7d.'",
   "  \x7d,",
   "",
   "  operation: \x7b",
   "    inputFields: [",
   "\x7b\x7b fields \x7d\x7d",
   "    ],",
   "\x7b\x7b sample \x7d\x7d    perform: trigger\x7b\x7b camel[:1]|upper \x7d\x7d\x7b\x7b camel[1:] \x7d\x7d",
   "  \x7d",
   "\x7d;"]

/-- The module of a search. -/
def searchSource : Text := linesText
  ["// find a particular \x7b\x7b lower_noun \x7d\x7d by name",
   "const search\x7b\x7b camel[:1]|upper \x7d\x7d\x7b\x7b camel[1:] \x7d\x7d = (z, bundle) => \x7b",
   "  const responsePromise = z.request(\x7b",
   "    method: 'GET',",
   "    url: 'https://example.com/api/\x7b\x7b key \x7d\x7d.json',",
   "    params: bundle.inputData",
   "  \x7d);",
   "  return responsePromise",
   "    .then(response => z.JSON.parse(response.content));",
   "\x7d;",
   "",
   "module.exports = \x7b",
   "  key: '\x7b\x7b key \x7d\x7d',",
   "  noun: '\x7b\x7b noun \x7d\x7d',",
   "",
   "  display: \x7b",
   "    label: 'Find \x7b\x7b noun \x7d\x7d',",
   "    description: 'Finds a \x7b\x7b lower_noun \x7d\x7d.'",
   "  \x7d,",
   "",
   "  operation: \x7b",
   "    inputFields: [",
   "\x7b\x7b fields \x7d\x7d",
   "    ],",
   "\x7b\x7b sample \x7d\x7d    perform: search\x7b\x7b camel[:1]|upper \x7d\x7d\x7b\x7b camel[1:] \x7d\x7d",
   "  \x7d",
   "\x7d;"]

/-- The module of a write. -/
def writeSource : Text := linesText
  ["// create a particular \x7b\x7b lower_noun \x7d\x7d by name",
   "const create\x7b\x7b camel[:1]|upper \x7d\x7d\x7b\x7b camel[1:] \x7d\x7d = (z, bundle) => \x7b",
   "  const responsePromise = z.request(\x7b",
   "    method: 'POST',",
   "    url: 'https://example.com/api/\x7b\x7b key \x7d\x7d.json',",
   "    body: JSON.stringify(bundle.inputData)",
   "  \x7d);",
   "  return responsePromise",
   "    .then(response => z.JSON.parse(response.content));",
   "\x7d;",
   "",
   "module.exports = \x7b",
   "  key: '\x7b\x7b key \x7d\x7d',",
   "  noun: '\x7b\x7b noun \x7d\x7d',",
   "",
   "  display: \x7b",
   "    label: 'Create \x7b\x7b noun \x7d\x7d',",
   "    description: 'Creates a \x7b\x7b lower_noun \x7d\x7d.'",
   "  \x7d,",
   "",
   "  operation: \x7b",
   "    inputFields: [",
   "\x7b\x7b fields \x7d\x7d",
   "    ],",
   "\x7b\x7b sample \x7d\x7d    perform: create\x7b\x7b camel[:1]|upper \x7d\x7d\x7b\x7b camel[1:] \x7d\x7d",
   "  \x7d",
   "\x7d;"]

/-- The index that requires and registers all steps. -/
def indexSource : Text := linesText
  ["\x7b\x7b requires \x7d\x7d",
   "",
   "const App = \x7b",
   "  version: require('./package.json').version,",
   "  platformVersion: require('zapier-platform-core').version,",
   "",
   "  beforeRequest: [",
   "  ],",
   "",
   "  afterResponse: [",
   "  ],",
   "",
   "  resources: \x7b",
   "  \x7d,",
   "",
   "  triggers: \x7b",
   "\x7b\x7b triggers \x7d\x7d",
   "  \x7d,",
   "",
   "  searches: \x7b",
   "\x7b\x7b searches \x7d\x7d",
   "  \x7d,",
   "",
   "  creates: \x7b",
   "\x7b\x7b writes \x7d\x7d",
   "  \x7d",
   "\x7d;",
   "",
   "module.exports = App;"]

/-- The manifest of the app. -/
def manifestSource : Text := linesText
  ["\x7b",
   "  \"name\": \"\x7b\x7b name \x7d\x7d\",",
   "  \"version\": \"1.0.0\",",
   "  \"description\": \"\x7b\x7b description \x7d\x7d\",",
   "  \"main\": \"index.js\",",
   "  \"scripts\": \x7b",
   "    \"test\": \"node node_modules/mocha/bin/mocha --recursive\"",
   "  \x7d,",
   "  \"engines\": \x7b",
   "    \"node\": \">=4.3.2\",",
   "    \"npm\": \">=2.14.12\"",
   "  \x7d,",
   "  \"dependencies\": \x7b",
   "    \"zapier-platform-core\": \"\x7b\x7b platform_core_version \x7d\x7d\"",
   "  \x7d,",
   "  \"devDependencies\": \x7b",
   "    \"mocha\": \"^3.2.0\",",
   "    \"should\": \"^11.2.0\"",
   "  \x7d",
   "\x7d"]

/-- The bundled templates by file name. -/
def bundled : List (Text × Text) :=
  [("index.js.j2", indexSource),
   ("package.json.j2", manifestSource),
   ("search.js.j2", searchSource),
   ("trigger.js.j2", triggerSource),
   ("write.js.j2", writeSource)]

end StepForge.Template
