/-!
# Built-in templates

Contracts that come with the program, as YAML texts.  The first one is run when no
contract is given or found.
-/

namespace SourceContract

structure Template where
  name : String
  description : String
  content : String

namespace Template

def ofLines (ls : List String) : String := String.join (ls.map fun line => line ++ "\n")

def logConventionsLines : List String :=
  ["# Logging conventions for workflow and integration tests.",
   "# Paths are relative to the project root.",
   "version: \"1.0\"",
   "name: \"Log conventions\"",
   "description: \"Structured logging and log capture usage in tests\"",
   "report:",
   "  path: test/log_verification_report.md",
   "  title: \"Logging convention verification report\"",
   "",
   "checks:",
   "  - name: source_logging",
   "    kind: threshold",
   "    file: test/unit/source/test_source_workflow.cpp",
   "    tokens: [DHLOGI, DHLOGW, DHLOGE]",
   "",
   "  - name: source_log_capture",
   "    kind: threshold",
   "    file: test/unit/source/test_source_workflow.cpp",
   "    tokens: [LogCapture]",
   "",
   "  - name: source_capture_pairing",
   "    kind: paired",
   "    file: test/unit/source/test_source_workflow.cpp",
   "    begin: StartCapture",
   "    end: StopCapture",
   "",
   "  - name: sink_logging",
   "    kind: threshold",
   "    file: test/unit/sink/test_sink_workflow.cpp",
   "    tokens: [DHLOGI, DHLOGW, DHLOGE]",
   "",
   "  - name: sink_log_capture",
   "    kind: threshold",
   "    file: test/unit/sink/test_sink_workflow.cpp",
   "    tokens: [LogCapture]",
   "",
   "  - name: sink_capture_pairing",
   "    kind: paired",
   "    file: test/unit/sink/test_sink_workflow.cpp",
   "    begin: StartCapture",
   "    end: StopCapture",
   "",
   "  - name: integration_output",
   "    description: \"Integration tests log through DHLOG, never std::cout\"",
   "    kind: forbidden",
   "    token: \"std::cout\"",
   "    files:",
   "      dir: test/integration",
   "      glob: \"*.cpp\"",
   "    require: [LogCapture]",
   "    allow_empty: true",
   "",
   "  - name: log_capture_tool",
   "    kind: exists",
   "    paths:",
   "      - test/unit/mock/log_capture.h",
   "      - test/unit/mock/log_capture.cpp",
   "",
   "  # Measurements: reported with the statistics, never fail the run.",
   "  - name: dhlog_files",
   "    description: \"Workflow tests using DHLOG\"",
   "    kind: count",
   "    files:",
   "      - test/unit/source/test_source_workflow.cpp",
   "      - test/unit/sink/test_sink_workflow.cpp",
   "    tokens: [DHLOGI, DHLOGW, DHLOGE]",
   "    unit: files",
   "",
   "  - name: log_capture_files",
   "    description: \"Workflow tests using LogCapture\"",
   "    kind: count",
   "    files:",
   "      - test/unit/source/test_source_workflow.cpp",
   "      - test/unit/sink/test_sink_workflow.cpp",
   "    tokens: [LogCapture]",
   "    unit: files",
   "",
   "  - name: integration_log_capture_files",
   "    description: \"Integration tests using LogCapture\"",
   "    kind: count",
   "    files:",
   "      dir: test/integration",
   "      glob: \"*.cpp\"",
   "    tokens: [LogCapture]",
   "    unit: files",
   "",
   "  - name: source_verification_points",
   "    description: \"Source log verification points\"",
   "    kind: count",
   "    files: [test/unit/source/test_source_workflow.cpp]",
   "    tokens: [\"EXPECT_TRUE(LogCapture\", \"EXPECT_TRUE(WaitForLog\", \"EXPECT_EQ(LogCapture\"]",
   "",
   "  - name: sink_verification_points",
   "    description: \"Sink log verification points\"",
   "    kind: count",
   "    files: [test/unit/sink/test_sink_workflow.cpp]",
   "    tokens: [\"EXPECT_TRUE(logCapture\", \"EXPECT_EQ(logCapture\"]",
   "",
   "  - name: log_capture_test_cases",
   "    description: \"LogCapture test cases\"",
   "    kind: count",
   "    files: [test/unit/mock/log_capture_test.cpp]",
   "    tokens: [\"bool Test\"]"]

def hdiMockLines : List String :=
  ["# Contract for an HDF/HDI camera mock module.",
   "# Paths are relative to the mock module directory.",
   "version: \"1.0\"",
   "name: \"HDI mock\"",
   "description: \"Interfaces, data structures and build wiring of the HDI mock\"",
   "report:",
   "  path: hdi_validation_report.md",
   "  title: \"HDF/HDI mock verification report\"",
   "  key_interfaces:",
   "    - \x7b label: \"MockHdiProvider::GetInstance()\", check: mock_provider \x7d",
   "    - \x7b label: \"EnableDCameraDevice()\", check: mock_provider \x7d",
   "    - \x7b label: \"OpenSession()\", check: callback \x7d",
   "    - \x7b label: \"ConfigureStreams()\", check: mock_provider \x7d",
   "    - \x7b label: \"AcquireBuffer()\", check: mock_provider \x7d",
   "    - \x7b label: \"ShutterBuffer()\", check: mock_provider \x7d",
   "    - \x7b label: \"Triple stream configuration\", check: triple_stream \x7d",
   "    - \x7b label: \"Zero-copy buffer operations\", check: zero_copy \x7d",
   "    - \x7b label: \"Builds without errors\", check: compilation \x7d",
   "    - \x7b label: \"Test program present\", check: test_program \x7d",
   "",
   "checks:",
   "  - name: files",
   "    description: \"Core mock sources are present\"",
   "    kind: exists",
   "    paths:",
   "      - include/hdi_mock.h",
   "      - src/hdi_mock.cpp",
   "      - include/distributed_hardware_log.h",
   "",
   "  - name: mock_provider",
   "    kind: interface",
   "    interface: MockHdiProvider",
   "    declaration: include/hdi_mock.h",
   "    implementation: src/hdi_mock.cpp",
   "    methods:",
   "      - GetInstance",
   "      - EnableDCameraDevice",
   "      - DisableDCameraDevice",
   "      - AcquireBuffer",
   "      - ShutterBuffer",
   "      - OnSettingsResult",
   "      - Notify",
   "      - TriggerOpenSession",
   "      - TriggerCloseSession",
   "      - TriggerConfigureStreams",
   "      - TriggerReleaseStreams",
   "      - TriggerStartCapture",
   "      - TriggerStopCapture",
   "      - TriggerUpdateSettings",
   "      - IsDeviceEnabled",
   "      - GetActiveStreamCount",
   "      - GetBufferAcquireCount",
   "      - GetBufferShutterCount",
   "      - GetConfiguredStreamIds",
   "      - GetBufferData",
   "      - GetBufferSize",
   "      - Reset",
   "",
   "  - name: callback",
   "    kind: interface",
   "    interface: MockProviderCallback",
   "    declaration: include/hdi_mock.h",
   "    implementation: src/hdi_mock.cpp",
   "    methods:",
   "      - OpenSession",
   "      - CloseSession",
   "      - ConfigureStreams",
   "      - ReleaseStreams",
   "      - StartCapture",
   "      - StopCapture",
   "      - UpdateSettings",
   "      - IsSessionOpen",
   "      - IsStreamsConfigured",
   "      - IsCaptureStarted",
   "      - GetOpenSessionCount",
   "      - GetConfigureStreamsCount",
   "      - GetStartCaptureCount",
   "      - Reset",
   "",
   "  - name: buffer_struct",
   "    kind: fields",
   "    file: include/hdi_mock.h",
   "    owner: DCameraBuffer",
   "    fields: [index_, size_, bufferHandle_, virAddr_]",
   "",
   "  - name: stream_struct",
   "    kind: fields",
   "    file: include/hdi_mock.h",
   "    owner: \"struct DCStreamInfo\"",
   "    fields: [streamId_, width_, height_, stride_, format_, encodeType_, type_]",
   "",
   "  - name: triple_stream",
   "    description: \"Control, snapshot and continuous streams\"",
   "    kind: tokens",
   "    rules:",
   "      - \x7b file: include/hdi_mock.h, any_of: [TripleStreamConfig] \x7d",
   "      - \x7b file: include/hdi_mock.h, any_of: [CONTROL_STREAM_ID] \x7d",
   "      - \x7b file: include/hdi_mock.h, any_of: [SNAPSHOT_STREAM_ID] \x7d",
   "      - \x7b file: include/hdi_mock.h, any_of: [CONTINUOUS_STREAM_ID] \x7d",
   "      - \x7b file: include/hdi_mock.h, any_of: [CreateDefaultTripleStreams] \x7d",
   "      - \x7b file: include/hdi_mock.h, any_of: [CreateCustomTripleStreams] \x7d",
   "      - \x7b file: include/hdi_mock.h, any_of: [CreateControlStream] \x7d",
   "      - \x7b file: include/hdi_mock.h, any_of: [CreateSnapshotStream] \x7d",
   "      - \x7b file: include/hdi_mock.h, any_of: [CreateContinuousStream] \x7d",
   "      - \x7b file: src/hdi_mock.cpp, any_of: [\"TripleStreamConfig::\"], min_count: 6 \x7d",
   "",
   "  - name: zero_copy",
   "    kind: tokens",
   "    rules:",
   "      - \x7b file: include/hdi_mock.h, any_of: [ZeroCopyBufferManager] \x7d",
   "      - \x7b file: include/hdi_mock.h, any_of: [GetInstance] \x7d",
   "      - \x7b file: include/hdi_mock.h, any_of: [CreateBuffer] \x7d",
   "      - \x7b file: include/hdi_mock.h, any_of: [AcquireBuffer] \x7d",
   "      - \x7b file: include/hdi_mock.h, any_of: [ReleaseBuffer] \x7d",
   "      - \x7b file: include/hdi_mock.h, any_of: [GetBufferData] \x7d",
   "      - \x7b file: include/hdi_mock.h, any_of: [SetBufferData] \x7d",
   "      - \x7b file: include/hdi_mock.h, any_of: [virAddr_] \x7d",
   "      - \x7b file: src/hdi_mock.cpp, any_of: [\"vector<uint8_t>\"] \x7d",
   "",
   "  - name: test_program",
   "    kind: exists",
   "    paths:",
   "      - test/hdi_mock_test.cpp",
   "      - test_hdi_basic.cpp",
   "",
   "  - name: test_coverage",
   "    description: \"Test cases for the main mock features\"",
   "    informational: true",
   "    kind: tokens",
   "    rules:",
   "      - \x7b file: test_hdi_basic.cpp, any_of: [Test_EnableDCameraDevice] \x7d",
   "      - \x7b file: test_hdi_basic.cpp, any_of: [Test_ConfigureStreams] \x7d",
   "      - \x7b file: test_hdi_basic.cpp, any_of: [Test_AcquireBuffer, Test_AcquireAndShutterBuffer] \x7d",
   "      - \x7b file: test_hdi_basic.cpp, any_of: [Test_ZeroCopyBuffer, Test_ZeroCopyBufferManager] \x7d",
   "      - \x7b file: test_hdi_basic.cpp, any_of: [Test_CompleteCaptureWorkflow, TestCaptureWorkflow] \x7d",
   "",
   "  - name: error_handling",
   "    kind: tokens",
   "    rules:",
   "      - \x7b file: src/hdi_mock.cpp, any_of: [INVALID_ARGUMENT] \x7d",
   "      - \x7b file: src/hdi_mock.cpp, any_of: [DEVICE_NOT_INIT] \x7d",
   "      - \x7b file: src/hdi_mock.cpp, any_of: [CAMERA_BUSY] \x7d",
   "      - \x7b file: src/hdi_mock.cpp, any_of: [\"dhId_.empty()\", \"dhId.empty()\"] \x7d",
   "",
   "  - name: compilation",
   "    description: \"Build file wires in the mock and its tests\"",
   "    kind: tokens",
   "    rules:",
   "      - \x7b file: CMakeLists.txt, any_of: [hdi_mock.cpp] \x7d",
   "      - \x7b file: CMakeLists.txt, any_of: [hdi_mock.h] \x7d",
   "      - \x7b file: CMakeLists.txt, any_of: [hdi_mock_test, test_hdi_basic] \x7d"]

def logConventions : Template where
  name := "log-conventions"
  description := "DHLOG and LogCapture usage, capture pairing, no std::cout in tests"
  content := ofLines logConventionsLines

def hdiMock : Template where
  name := "hdi-mock"
  description := "HDI mock interfaces, structures, features and build wiring"
  content := ofLines hdiMockLines

def all : List Template := [logConventions, hdiMock]

def default : Template := logConventions

def find? (name : String) : Option Template := all.find? fun t => t.name == name

end Template

end SourceContract
